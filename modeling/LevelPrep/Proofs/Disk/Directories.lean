import LevelPrep.Proofs.Disk.Agreement

/-!
# Making directories

A directory is made with all directories on its trail that are missing, and nothing else happens
(`makeDirectory_spec`).  It can be made where its path is not too long and no file stands in the way
(`exists_makeDirectory_iff`); so what can be made once can be made after other places have changed
(`makeDirectory_again`).
-/

namespace LevelPrep

/-- A path that the file system takes: it is not too long, and neither is any of its parts. -/
structure Path.Fits (p : Path) : Prop where
  zero : p.text.toList.contains (Char.ofNat 0) = false
  text : p.text.utf8ByteSize ≤ Disk.maxPath
  parts : ∀ part ∈ p.parts, part.utf8ByteSize ≤ Disk.maxPart

instance (p : Path) : Decidable p.Fits :=
  decidable_of_iff (p.text.toList.contains (Char.ofNat 0) = false ∧ p.text.utf8ByteSize ≤ Disk.maxPath ∧
    ∀ part ∈ p.parts, part.utf8ByteSize ≤ Disk.maxPart)
    ⟨fun h => ⟨h.1, h.2.1, h.2.2⟩, fun h => ⟨h.zero, h.text, h.parts⟩⟩

/-- A path starts with the path of the directory that it is in, except where this is written as a point. -/
theorem Path.text_parent {p : Path} (hparts : p.parts ≠ []) :
    p.parent.text = "." ∨ ∃ back, p.text = p.parent.text ++ back := by
  rcases p with ⟨anchor, parts⟩
  rcases List.eq_nil_or_concat parts with rfl | ⟨front, name, rfl⟩
  · exact absurd rfl hparts
  · unfold Path.text Path.parent
    simp only [List.concat_eq_append, List.dropLast_concat]
    by_cases hfront : front = []
    · cases anchor with
      | relative => exact Or.inl (by simp [hfront])
      | root double => exact Or.inr ⟨name, by simp [hfront]⟩
    · have hmore : "/".intercalate (front ++ [name]) = "/".intercalate front ++ ("/" ++ name) := by
        rw [String.intercalate_append_of_ne_nil hfront (by simp), String.intercalate_singleton, String.append_assoc]
      cases anchor with
      | relative => exact Or.inr ⟨"/" ++ name, by simp [hfront, hmore]⟩
      | root double => exact Or.inr ⟨"/" ++ name, by simp [hmore, String.append_assoc]⟩

/-- Where a path is not too long, neither is that of the directory that it is in. -/
theorem Path.Fits.parent {p : Path} (h : p.Fits) : p.parent.Fits := by
  by_cases hnil : p.parts = []
  · have hself : p.parent = p := congrArg (Path.mk p.anchor) (by rw [hnil]; rfl)
    rwa [hself]
  · have hparts : ∀ part ∈ p.parent.parts, part.utf8ByteSize ≤ Disk.maxPart := fun part hpart =>
      h.parts part (List.dropLast_subset _ hpart)
    rcases Path.text_parent hnil with hdot | ⟨back, htext⟩
    · refine ⟨?_, ?_, hparts⟩
      · rw [hdot]
        decide
      · rw [hdot]
        decide
    · refine ⟨?_, ?_, hparts⟩
      · have hzero := h.zero
        rw [htext, String.toList_append] at hzero
        simp only [List.contains_eq_mem, List.mem_append, decide_eq_false_iff_not, not_or] at hzero ⊢
        exact hzero.1
      · have hsize := h.text
        rw [htext, String.utf8ByteSize_append] at hsize
        omega

namespace Disk

variable {d d' : Disk} {p : Path} {place l location : List String}

/-- A place where no file stands. -/
def Free (d : Disk) (place : List String) : Prop :=
  ∀ content, d.entryAt? place ≠ some (.file content)

/-! ## Following a path -/

/-- The places that have to be directories for parts to be followed: all but the one that they lead to. -/
def passed : (place parts : List String) → List (List String)
  | _, [] => []
  | place, part :: rest => place :: passed (next place part) rest

theorem ways_eq (place parts : List String) : ways place parts = passed place parts ++ [ahead place parts] := by
  induction parts generalizing place with
  | nil => rfl
  | cons part rest ih => exact congrArg (place :: ·) (ih _)

theorem passed_snoc (place parts : List String) (part : String) :
    passed place (parts ++ [part]) = ways place parts := by
  induction parts generalizing place with
  | nil => rfl
  | cons other rest ih => exact congrArg (place :: ·) (ih _)

theorem follow_eq_ok_iff {shown : String} {parts : List String} :
    d.follow shown place parts = .ok location ↔ location = ahead place parts ∧
      (∀ part ∈ parts, part.utf8ByteSize ≤ maxPart) ∧ ∀ l ∈ passed place parts, d.entryAt? l = some .directory := by
  induction parts generalizing place with
  | nil =>
      constructor
      · intro h
        cases h
        exact ⟨rfl, by simp, by simp [passed]⟩
      · rintro ⟨rfl, -, -⟩
        rfl
  | cons part rest ih =>
      -- a part that is short enough is followed from a directory, and from nothing else
      have hstep : d.entryAt? place = some .directory → part.utf8ByteSize ≤ maxPart →
          d.follow shown place (part :: rest) = d.follow shown (next place part) rest := by
        intro hplace hpart
        rw [follow, hplace]
        dsimp only
        rw [if_neg (Nat.not_lt.2 hpart), next]
        split_ifs <;> rfl
      constructor
      · intro h
        have hboth : d.entryAt? place = some .directory ∧ part.utf8ByteSize ≤ maxPart := by
          rw [follow] at h
          split at h
          · cases h
          · cases h
          · next hplace =>
              split_ifs at h with hlong
              · exact ⟨hplace, Nat.not_lt.1 hlong⟩
              · exact ⟨hplace, Nat.not_lt.1 hlong⟩
        rw [hstep hboth.1 hboth.2, ih] at h
        exact ⟨h.1, List.forall_mem_cons.2 ⟨hboth.2, h.2.1⟩, List.forall_mem_cons.2 ⟨hboth.1, h.2.2⟩⟩
      · rintro ⟨hlocation, hparts, hplaces⟩
        rw [List.forall_mem_cons] at hparts
        rw [passed, List.forall_mem_cons] at hplaces
        rw [hstep hplaces.1 hparts.1, ih]
        exact ⟨hlocation, hparts.2, hplaces.2⟩

/-- Where a directory is missing and no file is in the way, following a path tells so. -/
theorem follow_eq_noSuchFile {shown : String} {parts : List String}
    (hparts : ∀ part ∈ parts, part.utf8ByteSize ≤ maxPart)
    (hfree : ∀ l ∈ passed place parts, d.Free l) (hmissing : ∃ l ∈ passed place parts, d.entryAt? l = none) :
    d.follow shown place parts = .error (.noSuchFile shown) := by
  induction parts generalizing place with
  | nil =>
      rcases hmissing with ⟨l, hl, -⟩
      cases hl
  | cons part rest ih =>
      rw [List.forall_mem_cons] at hparts
      rw [passed, List.forall_mem_cons] at hfree
      rw [follow]
      cases hplace : d.entryAt? place with
      | none => rfl
      | some entry =>
          cases entry with
          | file content => exact absurd hplace (hfree.1 content)
          | directory =>
              -- this directory is there, so a later one is missing
              have hlater : ∃ l ∈ passed (next place part) rest, d.entryAt? l = none := by
                rcases hmissing with ⟨l, hl, hnone⟩
                rcases List.mem_cons.1 hl with rfl | hl
                · cases hplace.symm.trans hnone
                · exact ⟨l, hl, hnone⟩
              have hrest := ih hparts.2 hfree.2 hlater
              dsimp only
              rw [if_neg (Nat.not_lt.2 hparts.1)]
              unfold next at hrest
              split_ifs at hrest ⊢ <;> exact hrest

theorem trail_eq (d : Disk) (p : Path) : d.trail p = passed (d.origin p) p.parts ++ [d.goal p] :=
  ways_eq _ _

theorem locate_eq_ok_iff : d.locate p = .ok location ↔
    location = d.goal p ∧ p.Fits ∧ ∀ l ∈ passed (d.origin p) p.parts, d.entryAt? l = some .directory := by
  have horigin : (if p.isAbsolute = true then [] else d.home.parts) = d.origin p := rfl
  unfold locate
  rw [horigin]
  constructor
  · intro h
    split_ifs at h with hzero hlong
    rcases follow_eq_ok_iff.1 h with ⟨hlocation, hparts, hplaces⟩
    exact ⟨hlocation, ⟨by simpa using hzero, Nat.not_lt.1 hlong, hparts⟩, hplaces⟩
  · rintro ⟨hlocation, hfits, hplaces⟩
    rw [if_neg (by rw [hfits.zero]; decide), if_neg (Nat.not_lt.2 hfits.text), follow_eq_ok_iff]
    exact ⟨hlocation, hfits.parts, hplaces⟩

/-- All places on a trail are directories. -/
def Stands (d : Disk) (p : Path) : Prop :=
  ∀ l ∈ d.trail p, d.entryAt? l = some .directory

theorem isDirectory_eq_true_iff : d.isDirectory p = .ok true ↔ p.Fits ∧ d.Stands p := by
  unfold Stands
  rw [trail_eq]
  simp only [List.forall_mem_append, List.forall_mem_singleton]
  constructor
  · intro h
    unfold isDirectory look at h
    -- a path that cannot be followed, or that leads to a file or to nothing, is no directory
    cases hlocate : d.locate p with
    | error fault =>
        rw [hlocate] at h
        cases fault <;> cases h
    | ok location =>
        rcases locate_eq_ok_iff.1 hlocate with ⟨rfl, hfits, hplaces⟩
        rw [hlocate] at h
        refine ⟨hfits, hplaces, ?_⟩
        cases hentry : d.entryAt? (d.goal p) with
        | none => simp [hentry, pure, Except.pure, bind, Except.bind] at h
        | some entry =>
            cases entry with
            | directory => rfl
            | file content => simp [hentry, pure, Except.pure, bind, Except.bind, Entry.isFile] at h
  · rintro ⟨hfits, hplaces, hgoal⟩
    have hlocate := locate_eq_ok_iff.2 ⟨rfl, hfits, hplaces⟩
    unfold isDirectory look
    rw [hlocate]
    dsimp only
    rw [hgoal]
    rfl

/-- Of what is in a directory it can be told whether it is a file, unless its path is too long. -/
theorem exists_isFile {name : String} (hdirectory : d.isDirectory p = .ok true) (hfits : (p.child name).Fits) :
    ∃ b, d.isFile (p.child name) = .ok b := by
  have hlocate : d.locate (p.child name) = .ok (d.goal (p.child name)) := by
    refine locate_eq_ok_iff.2 ⟨rfl, hfits, fun l hl => ?_⟩
    have hbelow := (isDirectory_eq_true_iff.1 hdirectory).2
    cases hname : Path.isPart name with
    | false =>
        rw [Path.child_of_not_isPart hname] at hl
        exact hbelow l (by rw [trail_eq]; exact List.mem_append_left _ hl)
    | true =>
        rw [Path.child_of_isPart hname] at hl
        have hl : l ∈ passed (d.origin p) (p.parts ++ [name]) := hl
        rw [passed_snoc] at hl
        exact hbelow l hl
  rw [isFile, look, hlocate]
  exact ⟨_, rfl⟩

/-! ## Making a directory -/

/-- A directory is made where nothing is, at the end of a trail of directories. -/
theorem makeNew_eq_ok_iff : d.makeNew p = .ok d' ↔ p.Fits ∧
    (∀ l ∈ passed (d.origin p) p.parts, d.entryAt? l = some .directory) ∧ d.entryAt? (d.goal p) = none ∧
      d' = d.withDirectory (d.goal p) := by
  unfold makeNew
  constructor
  · intro h
    rcases bind_eq_ok_iff.1 h with ⟨location, hlocate, hrest⟩
    rcases locate_eq_ok_iff.1 hlocate with ⟨rfl, hfits, hplaces⟩
    cases hgoal : d.entryAt? (d.goal p) with
    | some entry =>
        rw [hgoal] at hrest
        cases hrest
    | none =>
        rw [hgoal] at hrest
        cases hrest
        exact ⟨hfits, hplaces, rfl, by simp [withDirectory, hgoal]⟩
  · rintro ⟨hfits, hplaces, hgoal, rfl⟩
    rw [locate_eq_ok_iff.2 ⟨rfl, hfits, hplaces⟩, ok_bind, withDirectory, hgoal]
    rfl

theorem of_orPresent {made : Except Fault Disk} (h : d.orPresent p made = .ok d') :
    made = .ok d' ∨ (d' = d ∧ d.isDirectory p = .ok true) := by
  unfold orPresent at h
  split at h
  · exact Or.inl h
  · cases h
  · rcases bind_eq_ok_iff.1 h with ⟨present, hpresent, hrest⟩
    cases present with
    | true =>
        cases hrest
        exact Or.inr ⟨rfl, hpresent⟩
    | false => cases hrest

/-- Directories that are made do not put a file anywhere. -/
theorem Free.founded (h : d.Free l) (places : List (List String)) : (d.founded places).Free l := by
  induction places generalizing d with
  | nil => exact h
  | cons place rest ih =>
      refine ih fun content => ?_
      rw [entryAt?_withDirectory]
      split_ifs with hl
      · have hold := h content
        rw [hl] at hold
        cases hplace : d.entryAt? place with
        | none => simp
        | some old =>
            rw [hplace] at hold
            exact hold
      · exact h content

theorem origin_congr (h : d'.home = d.home) (p : Path) : d'.origin p = d.origin p := by
  rw [origin, origin, h]

theorem trail_congr (h : d'.home = d.home) (p : Path) : d'.trail p = d.trail p := by
  rw [trail, trail, origin_congr h]

theorem goal_congr (h : d'.home = d.home) (p : Path) : d'.goal p = d.goal p := by
  rw [goal, goal, origin_congr h]

/-- Where all places above a directory are directories, it is made alone. -/
theorem founded_trail_of_passed (h : ∀ l ∈ passed (d.origin p) p.parts, d.entryAt? l = some .directory) :
    d.founded (d.trail p) = d.withDirectory (d.goal p) := by
  have hpresent : d.founded (passed (d.origin p) p.parts) = d := by
    refine founded_of_present fun l hl => ?_
    rw [h l hl]
    rfl
  rw [trail_eq, founded_append, hpresent]
  rfl

/-- A directory that is made in a directory, or was there, stands. -/
theorem orPresent_spec (h : d.orPresent p (d.makeNew p) = .ok d') :
    p.Fits ∧ d' = d.founded (d.trail p) ∧ d'.Stands p := by
  rcases of_orPresent h with hnew | ⟨rfl, hpresent⟩
  · rcases makeNew_eq_ok_iff.1 hnew with ⟨hfits, hplaces, hgoal, rfl⟩
    refine ⟨hfits, (founded_trail_of_passed hplaces).symm, ?_⟩
    intro l hl
    rw [trail_congr (home_withDirectory d _), trail_eq] at hl
    rw [entryAt?_withDirectory]
    split_ifs with hlast
    · rw [hgoal]
      rfl
    · rcases List.mem_append.1 hl with hl | hl
      · exact hplaces l hl
      · exact absurd (List.mem_singleton.1 hl) hlast
  · rcases isDirectory_eq_true_iff.1 hpresent with ⟨hfits, hstands⟩
    refine ⟨hfits, (founded_of_present fun l hl => ?_).symm, hstands⟩
    rw [hstands l hl]
    rfl

/-- In a directory that stands, a directory can be made where no file is. -/
theorem exists_orPresent (hfits : p.Fits)
    (hplaces : ∀ l ∈ passed (d.origin p) p.parts, d.entryAt? l = some .directory)
    (hgoal : d.Free (d.goal p)) :
    (∃ d', d.orPresent p (d.makeNew p) = .ok d') ∧ ∀ shown, d.makeNew p ≠ .error (.noSuchFile shown) := by
  have hlocate := locate_eq_ok_iff.2 ⟨rfl, hfits, hplaces⟩
  cases hentry : d.entryAt? (d.goal p) with
  | none =>
      have hmade := makeNew_eq_ok_iff.2 ⟨hfits, hplaces, hentry, rfl⟩
      rw [hmade]
      exact ⟨⟨_, rfl⟩, by simp⟩
  | some entry =>
      cases entry with
      | file content => exact absurd hentry (hgoal content)
      | directory =>
          -- a directory that is there already cannot be made, and is as good as made
          have hmade : d.makeNew p = .error (.fileExists p.text) := by
            unfold makeNew
            rw [hlocate, ok_bind, hentry]
            rfl
          have hpresent : d.isDirectory p = .ok true := by
            refine isDirectory_eq_true_iff.2 ⟨hfits, fun l hl => ?_⟩
            rw [trail_eq] at hl
            rcases List.mem_append.1 hl with hl | hl
            · exact hplaces l hl
            · rw [List.mem_singleton.1 hl, hentry]
          rw [hmade]
          refine ⟨⟨d, ?_⟩, by simp⟩
          show (do if ← d.isDirectory p then return d else throw (.fileExists p.text)) = Except.ok d
          rw [hpresent]
          rfl

/-- Where a directory above it is missing and no file is in the way, making a directory tells so. -/
theorem makeNew_eq_noSuchFile (hfits : p.Fits) (hfree : ∀ l ∈ passed (d.origin p) p.parts, d.Free l)
    (hmissing : ∃ l ∈ passed (d.origin p) p.parts, d.entryAt? l = none) :
    d.makeNew p = .error (.noSuchFile p.text) := by
  have hlocate : d.locate p = .error (.noSuchFile p.text) := by
    unfold locate
    rw [if_neg (by rw [hfits.zero]; decide), if_neg (Nat.not_lt.2 hfits.text)]
    exact follow_eq_noSuchFile hfits.parts hfree hmissing
  unfold makeNew
  rw [hlocate]
  rfl

/-- The directories that a path leads through are those of its parent. -/
theorem passed_eq_parent (d : Disk) (h : p.parts ≠ []) : passed (d.origin p) p.parts = d.trail p.parent := by
  have hparts : p.parts = p.parent.parts ++ [p.parts.getLast h] := (List.dropLast_append_getLast h).symm
  rw [hparts, passed_snoc]
  rfl

theorem trail_eq_parent (d : Disk) (h : p.parts ≠ []) : d.trail p = d.trail p.parent ++ [d.goal p] := by
  rw [trail_eq, passed_eq_parent d h]

theorem parent_ne (h : p.parts ≠ []) : p.parent ≠ p := by
  intro heq
  have hlength := congrArg (fun q : Path => q.parts.length) heq
  have hpos := List.length_pos_of_ne_nil h
  simp only [Path.parent, List.length_dropLast] at hlength
  omega

/-- What making a directory with its parents does first where it cannot be made at once: the parents. -/
theorem of_makeWithParents_succ {fuel : Nat} (h : d.makeWithParents p (fuel + 1) = .ok d') :
    d.orPresent p (d.makeNew p) = .ok d' ∨
      ∃ d₁, d.makeWithParents p.parent fuel = .ok d₁ ∧ d₁.orPresent p (d₁.makeNew p) = .ok d' := by
  unfold makeWithParents at h
  split at h
  · split_ifs at h
    · cases h
    rcases bind_eq_ok_iff.1 h with ⟨d₁, hparent, hrest⟩
    split at hrest
    · cases hrest
    · exact Or.inr ⟨d₁, hparent, hrest⟩
  · exact Or.inl h

/-- With the parts of a path as fuel, all of its directories are made. -/
theorem makeWithParents_spec {fuel : Nat} (hfuel : p.parts.length = fuel)
    (h : d.makeWithParents p fuel = .ok d') : p.Fits ∧ d' = d.founded (d.trail p) ∧ d'.Stands p := by
  induction fuel generalizing p d' with
  | zero => exact orPresent_spec h
  | succ fuel ih =>
      have hparts : p.parts ≠ [] := by
        rintro hnil
        rw [hnil] at hfuel
        cases hfuel
      rcases of_makeWithParents_succ h with hmade | ⟨d₁, hparent, hmade⟩
      · exact orPresent_spec hmade
      · have hlength : p.parent.parts.length = fuel := by simp [Path.parent, hfuel]
        rcases ih hlength hparent with ⟨-, rfl, hstands⟩
        rcases orPresent_spec hmade with ⟨hfits, rfl, hlast⟩
        refine ⟨hfits, ?_, hlast⟩
        -- the parents are there, and only the last directory is left to be made
        have hhome := home_founded d (d.trail p.parent)
        rw [trail_congr hhome, trail_eq_parent d hparts, founded_append, founded_append,
          founded_of_present (d := d.founded (d.trail p.parent)) fun l hl => ?_]
        rw [hstands l (by rwa [trail_congr hhome])]
        rfl

theorem exists_makeWithParents {fuel : Nat} (hfuel : p.parts.length = fuel) (hfits : p.Fits)
    (hfree : ∀ l ∈ d.trail p, d.Free l) : ∃ d', d.makeWithParents p fuel = .ok d' := by
  induction fuel generalizing p with
  | zero =>
      have hnil : p.parts = [] := List.length_eq_zero_iff.1 hfuel
      refine (exists_orPresent hfits ?_ (hfree _ (goal_mem_trail d p))).1
      rw [hnil]
      simp [passed]
  | succ fuel ih =>
      have hparts : p.parts ≠ [] := by
        rintro hnil
        rw [hnil] at hfuel
        cases hfuel
      have hway : ∀ l ∈ passed (d.origin p) p.parts, d.Free l := by
        intro l hl
        refine hfree l ?_
        rw [trail_eq]
        exact List.mem_append_left _ hl
      unfold makeWithParents
      by_cases hplaces : ∀ l ∈ passed (d.origin p) p.parts, d.entryAt? l = some .directory
      · have hmade := exists_orPresent hfits hplaces (hfree _ (goal_mem_trail d p))
        split
        · next shown hmissing => exact absurd hmissing (hmade.2 shown)
        · exact hmade.1
      · -- a parent is missing, so that all of them are made first
        have hmissing : ∃ l ∈ passed (d.origin p) p.parts, d.entryAt? l = none := by
          push Not at hplaces
          rcases hplaces with ⟨l, hl, hne⟩
          refine ⟨l, hl, ?_⟩
          rcases hentry : d.entryAt? l with _ | _ | content
          · rfl
          · exact absurd hentry hne
          · exact absurd hentry (hway l hl content)
        have hparent : ∃ d₁, d.makeWithParents p.parent fuel = .ok d₁ := by
          refine ih (by simp [Path.parent, hfuel]) (hfits.parent) fun l hl => hfree l ?_
          rw [trail_eq_parent d hparts]
          exact List.mem_append_left _ hl
        rcases hparent with ⟨d₁, hparent⟩
        rcases makeWithParents_spec (by simp [Path.parent, hfuel]) hparent with ⟨-, rfl, hstands⟩
        have hhome := home_founded d (d.trail p.parent)
        have hgoal : (d.founded (d.trail p.parent)).Free ((d.founded (d.trail p.parent)).goal p) := by
          rw [goal_congr hhome]
          exact (hfree _ (goal_mem_trail d p)).founded _
        have hlast := exists_orPresent hfits (fun l hl => hstands l (by rwa [passed_eq_parent _ hparts] at hl)) hgoal
        rw [makeNew_eq_noSuchFile hfits hway hmissing]
        dsimp only
        rw [if_neg (parent_ne hparts), hparent, ok_bind]
        split
        · next shown hagain => exact absurd hagain (hlast.2 shown)
        · exact hlast.1

/-- Making a directory makes the directories on its trail that are missing, and then it stands. -/
theorem makeDirectory_spec (h : d.makeDirectory p = .ok d') :
    p.Fits ∧ d' = d.founded (d.trail p) ∧ d'.Stands p :=
  makeWithParents_spec rfl h

/-- A directory can be made where its path is not too long and no file is in the way. -/
theorem exists_makeDirectory_iff : (∃ d', d.makeDirectory p = .ok d') ↔
    p.Fits ∧ ∀ l ∈ d.trail p, d.Free l := by
  constructor
  · rintro ⟨d', h⟩
    rcases makeDirectory_spec h with ⟨hfits, rfl, hstands⟩
    refine ⟨hfits, fun l hl content hfile => ?_⟩
    have hthere := hstands l (by rwa [trail_congr (home_founded d _)])
    rw [entryAt?_founded_of_some _ hfile] at hthere
    cases hthere
  · rintro ⟨hfits, hfree⟩
    exact exists_makeWithParents rfl hfits hfree

/-- What can be made on one disk can be made on another one on which no file came into the way. -/
theorem makeDirectory_again (h : d.makeDirectory p = .ok d') {other : Disk} (hhome : other.home = d.home)
    (hfree : ∀ l ∈ d.trail p, d.Free l → other.Free l) :
    other.makeDirectory p = .ok (other.founded (d.trail p)) := by
  rcases exists_makeDirectory_iff.1 ⟨d', h⟩ with ⟨hfits, hnone⟩
  have hother : ∃ d₂, other.makeDirectory p = .ok d₂ := by
    refine exists_makeDirectory_iff.2 ⟨hfits, fun l hl => ?_⟩
    rw [trail_congr hhome] at hl
    exact hfree l hl (hnone l hl)
  rcases hother with ⟨d₂, hmade⟩
  rw [hmade, (makeDirectory_spec hmade).2.1, trail_congr hhome]

end Disk

end LevelPrep
