import Waterfall.CommandLine.Directory
import Waterfall.Proofs.Decode.Records

/-!
# What has been written is read back

A path at which a file can be written leads to the same place afterwards: a new file hides no directory,
so every step along the path is taken as before. There the bytes are found that were written
(`read_put`), and the files in other places are those that were there.
-/

namespace Waterfall.CommandLine

namespace Directory

variable {d : Directory}

/-! ## Steps along a path -/

theorem follow_cons_eq_ok_iff {p q : Place} {part : String} {rest : List String} :
    d.follow p (part :: rest) = .ok q ↔
      d.isDirectory p = true ∧ ∃ next, p.step part = .ok next ∧ d.follow next rest = .ok q := by
  rw [follow]
  split_ifs with hdirectory
  · rw [bind_eq_ok_iff]
    simp only [hdirectory, true_and]
  · simp [hdirectory]
  · simp [hdirectory]

theorem follow_append_eq_ok_iff {p q : Place} {before after : List String} :
    d.follow p (before ++ after) = .ok q ↔
      ∃ next, d.follow p before = .ok next ∧ d.follow next after = .ok q := by
  induction before generalizing p with
  | nil => simp [follow]
  | cons part rest ih =>
    simp only [List.cons_append, follow_cons_eq_ok_iff, ih]
    constructor
    · rintro ⟨hdirectory, p', hstep, next, hrest, hafter⟩
      exact ⟨next, ⟨hdirectory, p', hstep, hrest⟩, hafter⟩
    · rintro ⟨next, ⟨hdirectory, p', hstep, hrest⟩, hafter⟩
      exact ⟨hdirectory, p', hstep, next, hrest, hafter⟩

/-! ## A file more -/

/-- Directories lead to files, and no file is gone. -/
theorem isDirectory_put {place : Place} {bytes : Bytes} {p : Place} (h : d.isDirectory p = true) :
    (d.put place bytes).isDirectory p = true := by
  simp only [isDirectory, put, Bool.or_eq_true, List.any_eq_true, List.mem_cons, List.mem_filter] at h ⊢
  rcases h with hhere | ⟨f, hf, hbelow⟩
  · exact .inl hhere
  · by_cases hplace : f.1 = place
    · exact .inr ⟨(place, bytes), .inl rfl, hplace ▸ hbelow⟩
    · exact .inr ⟨f, .inr ⟨hf, by simpa using hplace⟩, hbelow⟩

theorem follow_put {place : Place} {bytes : Bytes} {parts : List String} {p q : Place}
    (h : d.follow p parts = .ok q) : (d.put place bytes).follow p parts = .ok q := by
  induction parts generalizing p with
  | nil => exact h
  | cons part rest ih =>
    obtain ⟨hdirectory, next, hstep, hrest⟩ := follow_cons_eq_ok_iff.mp h
    exact follow_cons_eq_ok_iff.mpr ⟨isDirectory_put hdirectory, next, hstep, ih hrest⟩

/-! ## Writing and reading -/

/-- What is left of a list when a run at its end is dropped, and nothing is gone, is the list. -/
theorem eq_of_length_le_reverse_dropWhile {α : Type} {p : α → Bool} {xs : List α}
    (h : xs.length ≤ (xs.reverse.dropWhile p).reverse.length) : (xs.reverse.dropWhile p).reverse = xs := by
  have hsuffix : xs.reverse.dropWhile p <:+ xs.reverse := List.dropWhile_suffix p
  rw [hsuffix.eq_of_length_le (by simpa using h), List.reverse_reverse]

theorem dropLast_append_getLast?_toList {α : Type} (xs : List α) :
    xs.dropLast ++ xs.getLast?.toList = xs := by
  cases hlast : xs.getLast? with
  | none =>
    rw [List.getLast?_eq_none_iff.mp hlast]
    rfl
  | some x => exact List.dropLast_append_getLast? x hlast

/-- A place to write at is one that the path leads to, and no directory. -/
theorem follow_of_target {path : String} {place : Place} (h : d.target path = .ok place) :
    ∃ start, d.start path = .ok start ∧ d.follow start (pathParts path) = .ok place := by
  simp only [target, bind_eq_ok_iff] at h
  obtain ⟨start, hstart, holder, hholder, last, hlast, hplace⟩ := h
  split_ifs at hplace with hdirectory
  obtain rfl := Except.ok.inj hplace
  -- There was no slash at the end, so the parts followed are all parts of the path.
  have hnamed := eq_of_length_le_reverse_dropWhile (Nat.not_lt.mp fun h => hdirectory (.inl h))
  rw [hnamed] at hholder hlast
  refine ⟨start, hstart, ?_⟩
  rw [← dropLast_append_getLast?_toList (pathParts path)]
  exact follow_append_eq_ok_iff.mpr ⟨holder, hholder, hlast⟩

/-- The bytes that were written at a path are read there. -/
theorem read_put {path : String} {place : Place} (h : d.target path = .ok place) (bytes : Bytes) :
    (d.put place bytes).read path = .ok bytes := by
  obtain ⟨start, hstart, hfollow⟩ := follow_of_target h
  have hstart' : (d.put place bytes).start path = .ok start := hstart
  simp only [read, bind_eq_ok_iff]
  refine ⟨start, hstart', place, follow_put hfollow, ?_⟩
  rw [fileAt?_put]
  rfl

end Directory

end Waterfall.CommandLine
