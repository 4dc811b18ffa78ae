import LevelPrep.Disk.Path
import LevelPrep.Proofs.Text.Pieces

/-!
# The spelling of paths

A path is in normal form if its parts are names (`Path.Normal`).  What is read is in normal form
(`normal_ofText`), so is what is made of it (`Normal.child`), and a path in normal form is read back from its text
(`ofText_text`).
-/

namespace LevelPrep.Path

/-- Whether a text can be a part of a path: it is one that counts, and no slash cuts it. -/
def IsName (name : String) : Prop :=
  isPart name = true ∧ '/' ∉ name.toList

/-- All parts of the path are names. -/
def Normal (p : Path) : Prop :=
  ∀ part ∈ p.parts, IsName part

/-! ## Reading and writing -/

theorem normal_ofText (text : String) : (ofText text).Normal := by
  intro part hpart
  have hmem := List.mem_filter.1 hpart
  rcases List.mem_map.1 hmem.1 with ⟨piece, hpiece, rfl⟩
  refine ⟨hmem.2, ?_⟩
  rw [String.toList_ofList]
  exact Text.notMem_of_mem_splitAt hpiece

section

variable {parts : List String}

/-- The parts are found again in what is written of them. -/
theorem filter_pieces (h : ∀ part ∈ parts, IsName part) :
    ((Text.splitAt '/' (['/'].intercalate (parts.map String.toList))).map String.ofList).filter isPart =
      parts := by
  cases parts with
  | nil => rfl
  | cons first rest =>
      have hpieces : ∀ piece ∈ (first :: rest).map String.toList, '/' ∉ piece := by
        intro piece hpiece
        rcases List.mem_map.1 hpiece with ⟨part, hpart, rfl⟩
        exact (h part hpart).2
      have hback : String.ofList ∘ String.toList = id := funext fun s => by simp
      rw [Text.splitAt_intercalate (by simp) hpieces, List.map_map, hback, List.map_id,
        List.filter_eq_self]
      exact fun part hpart => (h part hpart).1

/-- What is written of the parts starts with no slash. -/
theorem takeWhile_slash (h : ∀ part ∈ parts, IsName part) :
    (['/'].intercalate (parts.map String.toList)).takeWhile (· == '/') = [] := by
  cases parts with
  | nil => rfl
  | cons first rest =>
      rcases h first List.mem_cons_self with ⟨hpart, hslash⟩
      cases hchars : first.toList with
      | nil =>
          have hempty : first = "" := String.toList_eq_nil_iff.1 hchars
          rw [hempty] at hpart
          exact absurd hpart (by decide)
      | cons c chars =>
          have hne : c ≠ '/' := by
            rintro rfl
            exact hslash (by simp [hchars])
          cases rest <;> simp [hchars, hne]

end

@[simp] theorem splitAt_slash_cons (chars : List Char) :
    Text.splitAt '/' ('/' :: chars) = [] :: Text.splitAt '/' chars := by
  rw [Text.splitAt]
  cases h : Text.splitAt '/' chars with
  | nil => exact absurd h (Text.splitAt_ne_nil '/' chars)
  | cons piece pieces => rfl

/-- A path in normal form is read back from its text. -/
theorem ofText_text {p : Path} (h : p.Normal) : ofText p.text = p := by
  rcases p with ⟨anchor, parts⟩
  have hparts := filter_pieces h
  have hstart := takeWhile_slash h
  simp only at hparts hstart
  cases anchor with
  | relative =>
      cases parts with
      | nil => rfl
      | cons first rest =>
          simp only [List.map_cons] at hparts hstart
          simp [ofText, text, hparts, hstart]
  | root double =>
      -- each slash in front is one more empty piece, which does not count
      have hempty : isPart "" = false := rfl
      cases double <;> simp [ofText, text, hparts, hstart, hempty]

theorem text_ne_empty {p : Path} (h : p.Normal) : p.text ≠ "" := by
  intro htext
  have hread := ofText_text h
  rw [htext] at hread
  rw [← hread] at htext
  exact absurd htext (by decide)

/-! ## Building paths -/

/-- A file in a directory keeps the normal form, also where its name leads nowhere. -/
theorem Normal.child {p : Path} (h : p.Normal) {name : String} (hslash : '/' ∉ name.toList) :
    (p.child name).Normal := by
  cases hname : isPart name with
  | false =>
      rw [child_of_not_isPart hname]
      exact h
  | true =>
      rw [child_of_isPart hname]
      intro part hpart
      rcases List.mem_append.1 hpart with hold | hlast
      · exact h part hold
      · rw [List.mem_singleton.1 hlast]
        exact ⟨hname, hslash⟩

theorem Normal.expandHome {p home q : Path} (h : p.Normal) (hhome : home.Normal)
    (hq : p.expandHome home = .ok q) : q.Normal := by
  unfold Path.expandHome at hq
  split at hq
  · next first rest _ hparts =>
      split_ifs at hq
      · cases hq
        intro part hpart
        rcases List.mem_append.1 hpart with hold | hlate
        · exact hhome part hold
        · exact h part (by rw [hparts]; exact List.mem_cons_of_mem first hlate)
      · cases hq
        exact h
  · cases hq
    exact h

end LevelPrep.Path
