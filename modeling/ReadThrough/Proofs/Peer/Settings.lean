import Mathlib.Tactic.Common
import ReadThrough.Peer.Settings

/-!
# Accepted settings

If the settings of a configuration are accepted, then so is each of them, since
attempts in a row succeed exactly if each of them does.  An accepted base path
starts and ends with a slash, and neither begins with a reserved path nor is the
beginning of one.
-/

namespace ReadThrough

universe u

variable {ε α β : Type u}

/-- Two attempts in a row succeed exactly if both do. -/
theorem attempts_eq_ok_iff {first : Except ε α} {next : α → Except ε β} {result : β} :
    first >>= next = .ok result ↔ ∃ value, first = .ok value ∧ next value = .ok result := by
  cases first with
  | error error => exact iff_of_false nofun nofun
  | ok value =>
      refine ⟨fun same => ⟨value, rfl, same⟩, ?_⟩
      rintro ⟨_, ⟨⟩, same⟩
      exact same

end ReadThrough

namespace ReadThrough.Peer

open Yaml (Value)
open Config (query)

/-- A path that may stand in front of the requests between nodes. -/
structure IsBasePath (path : String) : Prop where
  enclosed : isEnclosed path = true
  apart : ∀ reserved ∈ reservedPaths, overlaps path reserved = false

theorem isBasePath_default : IsBasePath defaultBasePath := ⟨by decide, by decide⟩

theorem overlaps_eq_false_iff {left right : String} :
    overlaps left right = false ↔
      ¬ left.toList <+: right.toList ∧ ¬ right.toList <+: left.toList := by
  rw [overlaps, Bool.or_eq_false_iff, ← Bool.not_eq_true, ← Bool.not_eq_true,
    List.isPrefixOf_iff_prefix, List.isPrefixOf_iff_prefix]

namespace IsBasePath

variable {path : String} (accepted : IsBasePath path)

include accepted

theorem starts : ∃ rest, path.toList = '/' :: rest := by
  have enclosed := accepted.enclosed
  rw [isEnclosed, Bool.and_eq_true, beq_iff_eq, List.head?_eq_some_iff] at enclosed
  exact enclosed.1

theorem not_isPrefix_reserved {reserved : String} (present : reserved ∈ reservedPaths) :
    ¬ path.toList <+: reserved.toList :=
  (overlaps_eq_false_iff.mp (accepted.apart reserved present)).1

theorem reserved_not_isPrefix {reserved : String} (present : reserved ∈ reservedPaths) :
    ¬ reserved.toList <+: path.toList :=
  (overlaps_eq_false_iff.mp (accepted.apart reserved present)).2

end IsBasePath

namespace Settings

variable {document : Value} {settings : Settings} {members : List String}

theorem isBasePath_of_free {path : String} (enclosed : isEnclosed path = true)
    (free : reservedPaths.find? (overlaps path) = none) : IsBasePath path :=
  ⟨enclosed, by simpa using free⟩

/-- What is read as the base path is one, whether it is configured or not. -/
theorem isBasePath_of_read {path : String} (read : readBasePath document = .ok path) :
    IsBasePath path := by
  rw [readBasePath] at read
  cases chosen : query document "peers.base_path" with
  | str configured =>
      by_cases enclosed : isEnclosed configured = true
      · simp only [chosen, enclosed, if_true] at read
        obtain ⟨_, ⟨⟩, kept⟩ := attempts_eq_ok_iff.mp read
        split at kept
        next => cases kept
        next free =>
          cases kept
          exact isBasePath_of_free enclosed free
      · simp only [chosen, enclosed] at read
        cases read
  | bad | null =>
      simp only [chosen] at read
      obtain ⟨_, ⟨⟩, kept⟩ := attempts_eq_ok_iff.mp read
      split at kept
      next => cases kept
      next free =>
        cases kept
        exact isBasePath_of_free isBasePath_default.enclosed free
  | _ =>
      simp only [chosen] at read
      cases read

/-- If the settings are accepted, then so is each of them. -/
theorem parts_of_read (accepted : read document = .ok (settings, members)) :
    readSelf document = .ok settings.self ∧ readBasePath document = .ok settings.basePath ∧
      readReplicas document = .ok settings.replicas ∧
      readTimeout document = .ok settings.timeout ∧ readMembers document = .ok members := by
  obtain ⟨self, selfRead, accepted⟩ := attempts_eq_ok_iff.mp accepted
  obtain ⟨basePath, basePathRead, accepted⟩ := attempts_eq_ok_iff.mp accepted
  obtain ⟨replicas, replicasRead, accepted⟩ := attempts_eq_ok_iff.mp accepted
  obtain ⟨timeout, timeoutRead, accepted⟩ := attempts_eq_ok_iff.mp accepted
  obtain ⟨addresses, membersRead, accepted⟩ := attempts_eq_ok_iff.mp accepted
  cases accepted
  exact ⟨selfRead, basePathRead, replicasRead, timeoutRead, membersRead⟩

theorem isBasePath_basePath (accepted : read document = .ok (settings, members)) :
    IsBasePath settings.basePath :=
  isBasePath_of_read (parts_of_read accepted).2.1

end Settings

end ReadThrough.Peer
