import LevelPrep.Proofs.Batch.Layout

/-!
# Imports that are kept apart

In a layout, the import of a scene touches its own places alone (`Layout.agree_result`), and comes to the same
wherever the imports of other scenes have left theirs (`Layout.sameResult`).
-/

namespace LevelPrep

open Disk

variable {aside : List String → Bool} {d d' : Disk} {p : Path} {place : List String}

/-! ## Disks that agree but for a file -/

/-- Where nothing is set aside along a path but one place, which is a file on both disks, the path leads the same
way. -/
theorem Disk.Agree.sameWay (h : Agree aside d d') (hfile : ∃ content, d.entryAt? place = some (.file content))
    (hfile' : ∃ content, d'.entryAt? place = some (.file content))
    (honly : ∀ l ∈ d.trail p, aside l = true → l = place) : SameWay d d' p := by
  refine ⟨h.home, fun l hl => ?_⟩
  cases haside : aside l with
  | false => rw [h.entryAt?_eq haside]
  | true =>
      rcases hfile with ⟨content, hcontent⟩
      rcases hfile' with ⟨content', hcontent'⟩
      rw [honly l hl haside, hcontent, hcontent']
      rfl

/-- What an action comes to on two disks that agree: it fails on both, or makes disks that agree. -/
inductive SameOutcome (aside : List String → Bool) : Option Disk → Option Disk → Prop
  | refused : SameOutcome aside none none
  | done {e e' : Disk} (h : Agree aside e e') : SameOutcome aside (some e) (some e')

/-- The same text is stored on two disks that agree. -/
theorem sameOutcome_store (h : Agree aside d d') (hway : SameWay d d' p) (text : String) :
    SameOutcome aside (d.store p text) (d'.store p text) := by
  unfold store
  rw [hway.openFile_eq]
  cases d.openFile p with
  | error fault => exact .refused
  | ok place => exact .done (h.put place _)

/-- A directory that nothing of what makes up the places set aside is near. -/
theorem Disk.apart_of_forall {root : Path} {files : List Path} {holds : Path → List String → Bool}
    (h : ∀ file ∈ files, d.Apart (holds file) root)
    (hless : ∀ l, aside l = true → ∃ file ∈ files, holds file l = true) : d.Apart aside root := by
  have hkept : ∀ l, (∀ file ∈ files, holds file l = false) → aside l = false := by
    intro l hl
    cases haside : aside l with
    | false => rfl
    | true =>
        rcases hless l haside with ⟨file, hfile, hin⟩
        rw [hl file hfile] at hin
        cases hin
  exact ⟨fun l hl => hkept l fun file hfile => (h file hfile).trail l hl,
    hkept _ fun file hfile => (h file hfile).above, fun name => hkept _ fun file hfile => (h file hfile).below name⟩

namespace Spaced

variable {i : Importer} {site : Site} {files : List Path} {file : Path} {branch : Branch Float}

variable (h : Spaced i site files) (hfile : file ∈ files)
include h hfile

/-! ## What an import touches -/

omit h hfile in
/-- A file that is put below the base of a scene is one that its import may change. -/
theorem agree_put_below {place : List String} (hstands : ∀ l ∈ site.approach, d.entryAt? l = some .directory)
    (hbase : site.base file <+: place) (hentry : d.entryAt? place ≠ some .directory) (content : ByteArray) :
    Agree (site.touches file) d (d.put place (.file content)) := by
  refine agree_put ((Site.touches_iff site).2 (Or.inl ⟨hbase, fun hin => ?_⟩)) d _
  exact hentry (hstands _ hin)

omit hfile in
/-- A tree that is saved is put into the directory of its scene. -/
theorem put_of_savedTree (hhome : d.home = site.disk.home)
    (hsaved : i.savedTree (site.directory file) branch d = some d') : d' = d ∨ ∃ name,
      pathEnd i.plan.output.sceneTreeFile = .ok name ∧ name.Inward ∧
      d.entryAt? (site.disk.goal (site.directory file ++ name)) ≠ some .directory ∧
      d' = d.put (site.disk.goal (site.directory file ++ name))
        (.file (Json.print (Document.encode branch)).toUTF8) := by
  rcases Importer.savedTree_cases hsaved with ⟨-, rfl⟩ | ⟨name, hset, hname, hstore⟩
  · exact Or.inl rfl
  · rcases of_store hstore with ⟨-, hentry, rfl⟩
    rw [goal_congr hhome] at hentry ⊢
    exact Or.inr ⟨name, hname, (h.tree hset name hname).1, hentry, rfl⟩

/-- A scene that is exported is put into its directory. -/
theorem put_of_exported (hhome : d.home = site.disk.home)
    (hexported : i.exported (site.directory file) branch d = some d') : d' = d ∨ ∃ name content,
      pathEnd i.plan.output.glbFile = .ok name ∧ name.Inward ∧
      d.entryAt? (site.disk.goal (site.directory file ++ name)) ≠ some .directory ∧
      d' = d.put (site.disk.goal (site.directory file ++ name)) (.file content) := by
  rcases Importer.exported_cases hexported with ⟨-, rfl⟩ | ⟨name, text, hset, hname, hstore⟩
  · exact Or.inl rfl
  · rcases h.glb hset name hname with ⟨hinward, hleads⟩
    have hparts := h.parts_directory_ne_nil hfile
    rw [Path.expandOwnHome_append (hleads file hfile) hparts hinward.relative] at hstore
    have hgrounded : d.Grounded := ⟨hhome ▸ h.grounded.absolute, hhome ▸ h.grounded.plain⟩
    rcases of_store hstore with ⟨-, hentry, rfl⟩
    rw [goal_absolute hgrounded, goal_congr hhome] at hentry ⊢
    exact Or.inr ⟨name, _, hname, hinward, hentry, rfl⟩

omit hfile in
theorem agree_savedTree (hhome : d.home = site.disk.home)
    (hstands : ∀ l ∈ site.approach, d.entryAt? l = some .directory)
    (hsaved : i.savedTree (site.directory file) branch d = some d') : Agree (site.touches file) d d' := by
  rcases h.put_of_savedTree hhome hsaved with rfl | ⟨name, -, hinward, hentry, rfl⟩
  · exact .refl _ d'
  · exact agree_put_below hstands (site.base_prefix_goal file hinward) hentry _

theorem agree_exported (hhome : d.home = site.disk.home)
    (hstands : ∀ l ∈ site.approach, d.entryAt? l = some .directory)
    (hexported : i.exported (site.directory file) branch d = some d') : Agree (site.touches file) d d' := by
  rcases h.put_of_exported hfile hhome hexported with rfl | ⟨name, content, -, hinward, hentry, rfl⟩
  · exact .refl _ d'
  · exact agree_put_below hstands (site.base_prefix_goal file hinward) hentry _

/-- The import of a scene touches its own places alone, whatever it comes to. -/
theorem agree_result (hhome : d.home = site.disk.home)
    (hstands : ∀ l ∈ site.approach, d.entryAt? l = some .directory) :
    Agree (site.touches file) d (i.result file (site.directory file) d).2 := by
  have hends := i.ends_result file (site.directory file) d
  generalize i.result file (site.directory file) d = result at hends ⊢
  cases hends with
  | unmade => exact .refl _ d
  | unsaved => exact .refl _ d
  | unexported _ hsaved => exact h.agree_savedTree hhome hstands hsaved
  | imported _ hsaved hexported =>
      have hlasts := Importer.lasts_of_savedTree hsaved
      refine (h.agree_savedTree hhome hstands hsaved).trans ?_
      exact h.agree_exported hfile (hlasts.home.trans hhome) (fun l hl => hlasts.directory (hstands l hl)) hexported

end Spaced

namespace Layout

variable {i : Importer} {site : Site} {files others : List Path} {file : Path} {branch : Branch Float}

variable (h : Layout i site files) (hfile : file ∈ files)
include h hfile

/-! ## What an import comes to -/

section

variable (hothers : ∀ other ∈ others, other ∈ files ∧ other ≠ file)
include hothers

/-- Along a path that is used for a scene, the imports of other scenes have changed its log file at most. -/
theorem eq_logPlace_of_differs {l : List String}
    (hl : l ∈ site.approach ∨ site.base file <+: l ∨ l <+: site.base file)
    (hdiffers : site.differs others file l = true) : l = site.logPlace file := by
  rcases site.differs_iff.1 hdiffers with htouched | rfl
  · rcases site.touched_iff.1 htouched with ⟨other, hother, htouches⟩
    rcases hothers other hother with ⟨hin, hne⟩
    rcases hl with hl | hl
    · rw [h.touches_approach hin hl] at htouches
      cases htouches
    · exact h.eq_logPlace_of_touches hfile hin hne hl htouches
  · rfl

variable (hhome : d.home = site.disk.home) (hagree : Agree (site.differs others file) d d')
include hhome hagree

/-- The tree that is made of a scene is the same wherever the imports of other scenes have left theirs. -/
theorem product_eq (hload : i.processor.tools.LoadsAlone) :
    i.processor.product i.bake d' file = i.processor.product i.bake d file := by
  -- whatever may differ is a place of some scene, and nothing is read there
  have hholds : ∀ l, site.differs others file l = true → ∃ other ∈ files, site.holds other l = true := by
    intro l hl
    rcases site.differs_iff.1 hl with htouched | rfl
    · rcases site.touched_iff.1 htouched with ⟨other, hother, htouches⟩
      exact ⟨other, (hothers other hother).1, site.holds_of_touches htouches⟩
    · exact ⟨file, hfile, by simp [Site.holds]⟩
  refine LevelProcessor.product_congr hagree hload ?_ ?_
  · intro entry hentry root hroot
    rw [hhome] at hroot
    have hapart := apart_of_forall (h.catalogs entry hentry root hroot) hholds
    refine ⟨fun l hl => hapart.trail l ?_, ?_, ?_⟩
    · rwa [trail_congr hhome] at hl
    · rw [goal_congr hhome]
      exact hapart.above
    · rw [goal_congr hhome]
      exact hapart.below
  · intro l hl
    rw [trail_congr hhome] at hl
    cases hdiffers : site.differs others file l with
    | false => rfl
    | true =>
        rcases hholds l hdiffers with ⟨other, hother, hin⟩
        rw [h.inputs file hfile other hother l hl] at hin
        cases hin

variable (hlog : ∃ content, d.entryAt? (site.logPlace file) = some (.file content))
  (hlog' : ∃ content, d'.entryAt? (site.logPlace file) = some (.file content))
include hlog hlog'

/-- The path of a file in the directory of a scene leads the same way. -/
theorem sameWay_inward {name : Path} (hname : name.Inward) : SameWay d d' (site.directory file ++ name) := by
  refine hagree.sameWay hlog hlog' fun l hl => h.eq_logPlace_of_differs hfile hothers ?_
  rw [trail_congr hhome] at hl
  exact (h.mem_trail_inward hfile hname hl).imp_right Or.inl

/-- A file in the directory of a scene is the same, unless it is the log file. -/
theorem look_eq {name : Path} (hname : name.Inward)
    (hne : site.disk.goal (site.directory file ++ name) ≠ site.logPlace file) :
    d'.look (site.directory file ++ name) = d.look (site.directory file ++ name) := by
  have hway := h.sameWay_inward hfile hothers hhome hagree hlog hlog' hname
  refine SameAlong.look_eq ⟨hway, hagree.entryAt?_eq ?_⟩
  cases hgoal : site.differs others file (d.goal (site.directory file ++ name)) with
  | false => rfl
  | true =>
      rw [goal_congr hhome] at hgoal
      have hbelow := site.base_prefix_goal file hname
      exact absurd (h.eq_logPlace_of_differs hfile hothers (Or.inr (Or.inl hbelow)) hgoal) hne

theorem sameOutcome_savedTree (branch : Branch Float) : SameOutcome (site.differs others file)
    (i.savedTree (site.directory file) branch d) (i.savedTree (site.directory file) branch d') := by
  unfold Importer.savedTree
  split_ifs with hset
  · cases hname : pathEnd i.plan.output.sceneTreeFile with
    | error fault => exact .refused
    | ok name =>
        have hway := h.sameWay_inward hfile hothers hhome hagree hlog hlog' (h.tree hset name hname).1
        exact sameOutcome_store hagree hway _
  · exact .done hagree

theorem sameOutcome_exported (branch : Branch Float) : SameOutcome (site.differs others file)
    (i.exported (site.directory file) branch d) (i.exported (site.directory file) branch d') := by
  unfold Importer.exported
  split_ifs with hset
  · cases hname : pathEnd i.plan.output.glbFile with
    | error fault => exact .refused
    | ok name =>
        rcases h.glb hset name hname with ⟨hinward, hleads⟩
        have hparts := h.parts_directory_ne_nil hfile
        have habsolute : ∀ e : Disk, e.home = site.disk.home →
            e.absolute (site.directory file ++ name) = site.disk.absolute (site.directory file ++ name) := by
          intro e he
          rw [absolute, absolute, he]
        show SameOutcome _ ((exportedText branch (site.directory file ++ name) _).bind _)
          ((exportedText branch (site.directory file ++ name) _).bind _)
        cases exportedText branch (site.directory file ++ name) i.plan.scene.upright.isSet with
        | none => exact .refused
        | some text =>
            show SameOutcome _ (d.store _ text) (d'.store _ text)
            -- the file is opened by its absolute path, which is the same on both disks
            rw [Path.expandOwnHome_append (hleads file hfile) hparts hinward.relative,
              Path.expandOwnHome_append (hleads file hfile) hparts hinward.relative, habsolute d hhome,
              habsolute d' (hagree.home.trans hhome)]
            refine sameOutcome_store hagree (hagree.sameWay hlog hlog' fun l hl => ?_) text
            rw [trail_congr hhome] at hl
            exact h.eq_logPlace_of_differs hfile hothers (Or.inr (h.mem_trail_absolute hinward hl))
  · exact .done hagree

/-- The import of a scene comes to the same wherever the imports of other scenes have left theirs. -/
theorem sameResult (hload : i.processor.tools.LoadsAlone) :
    (i.result file (site.directory file) d').1 = (i.result file (site.directory file) d).1 ∧
      Agree (site.differs others file) (i.result file (site.directory file) d).2
        (i.result file (site.directory file) d').2 := by
  unfold Importer.result
  rw [h.product_eq hfile hothers hhome hagree hload]
  cases i.processor.product i.bake d file with
  | none => exact ⟨rfl, hagree⟩
  | some branch =>
      have htree := h.sameOutcome_savedTree hfile hothers hhome hagree hlog hlog' branch
      dsimp only
      generalize hsaved : i.savedTree (site.directory file) branch d = saved at htree ⊢
      generalize hsaved' : i.savedTree (site.directory file) branch d' = saved' at htree ⊢
      cases htree with
      | refused => exact ⟨rfl, hagree⟩
      | @done e e' he =>
          -- what was saved has not closed the log file
          have hlasts := Importer.lasts_of_savedTree hsaved
          have hlasts' := Importer.lasts_of_savedTree hsaved'
          have hglb := h.sameOutcome_exported hfile hothers (hlasts.home.trans hhome) he
            (hlasts.file hlog) (hlasts'.file hlog') branch
          dsimp only
          generalize i.exported (site.directory file) branch e = finished at hglb ⊢
          generalize i.exported (site.directory file) branch e' = finished' at hglb ⊢
          cases hglb with
          | refused => exact ⟨rfl, he⟩
          | done hdone => exact ⟨rfl, hdone⟩

end

end Layout

end LevelPrep
