import Covenant.Files.System

/-!
# What operations leave of the files

Files are compared place by place (`FileSystem.file?`), because a path is no
name for a file: what it leads to depends on the directories. A path through a
missing directory leads nowhere, and to a file as soon as the directory is
made.

Two file systems have the same files, the second with directories added
perhaps, if `SameFiles` holds. Making directories is of this kind, whether it
succeeds or fails. A path that led to a place still leads there
(`resolve_of_keepsDirectories`), so a file that could be read reads as before.

Replacing what a file holds changes it alone, and that is then read under its
path (`contents_of_replace`, `contents_of_replace_of_ne`). Writing a text may
also leave the file empty (`write_cases`).
-/

namespace Covenant

namespace FileSystem

/-- **The contents of the file at a place**, if there is a file. -/
def file? (fs : FileSystem) (at_ : Location) : Option Contents :=
  match fs.node? at_ with
  | some (.file c) => some c
  | _ => none

/-- Whether every directory of the first is one of the second. -/
def KeepsDirectories (fs fs' : FileSystem) : Prop :=
  ∀ at_, fs.node? at_ = some .directory → fs'.node? at_ = some .directory

/-- **The same files**, and perhaps more directories. -/
structure SameFiles (fs fs' : FileSystem) : Prop where
  /-- Directories stay. -/
  directories : KeepsDirectories fs fs'
  /-- No file appears, changes or disappears. -/
  files : ∀ at_, fs'.file? at_ = fs.file? at_
  /-- The same characters stand for halves of surrogate pairs. -/
  halves : fs'.halves = fs.halves

theorem SameFiles.refl (fs : FileSystem) : SameFiles fs fs := ⟨fun _ h => h, fun _ => rfl, rfl⟩

theorem SameFiles.trans {fs fs' fs'' : FileSystem} (h : SameFiles fs fs')
    (h' : SameFiles fs' fs'') : SameFiles fs fs'' :=
  ⟨fun at_ hd => h'.directories at_ (h.directories at_ hd),
    fun at_ => (h'.files at_).trans (h.files at_), h'.halves.trans h.halves⟩

/-! ## Following paths -/

section Following

variable {fs fs' : FileSystem}

/-- A name that led somewhere still does, where directories stay. -/
theorem enter_of_keepsDirectories {from_ at_ : Location} {name : String}
    (hd : KeepsDirectories fs fs') (h : fs.enter from_ name = .ok at_) :
    fs'.enter from_ name = .ok at_ := by
  unfold enter at h ⊢
  cases hnode : fs.node? from_ with
  | none =>
    rw [hnode] at h
    cases h
  | some node =>
    rw [hnode] at h
    cases node with
    | file c => cases h
    | directory =>
      rw [hd from_ hnode]
      exact h

/-- Names that led somewhere still do. -/
theorem follow_of_keepsDirectories {from_ at_ : Location} {names : List String}
    (hd : KeepsDirectories fs fs') (h : fs.follow from_ names = .ok at_) :
    fs'.follow from_ names = .ok at_ := by
  induction names generalizing from_ with
  | nil => exact h
  | cons name names ih =>
    unfold follow at h ⊢
    cases henter : fs.enter from_ name with
    | error t =>
      rw [henter] at h
      cases h
    | ok next =>
      rw [henter] at h
      rw [enter_of_keepsDirectories hd henter]
      exact ih h

/-- **A path that led somewhere still leads there.** -/
theorem resolve_of_keepsDirectories {p : Path} {at_ : Location} (hd : KeepsDirectories fs fs')
    (h : fs.resolve p = .ok at_) : fs'.resolve p = .ok at_ := by
  unfold resolve at h ⊢
  split at h
  · cases h
  · split at h
    · cases h
    · rename_i hnul hlong
      rw [if_neg hnul, if_neg hlong]
      exact follow_of_keepsDirectories hd h

theorem contents_eq_ok_iff {p : Path} {c : Contents} :
    fs.contents p = .ok c ↔ ∃ at_, fs.resolve p = .ok at_ ∧ fs.file? at_ = some c := by
  unfold contents file?
  cases fs.resolve p with
  | error t => simp
  | ok at_ =>
    cases hnode : fs.node? at_ with
    | none => simp [hnode]
    | some node => cases node <;> simp [hnode]

/-- **A file that could be read reads as before.** -/
theorem SameFiles.contents (h : SameFiles fs fs') {p : Path} {c : Contents}
    (hc : fs.contents p = .ok c) : fs'.contents p = .ok c := by
  obtain ⟨at_, hresolve, hfile⟩ := contents_eq_ok_iff.mp hc
  refine contents_eq_ok_iff.mpr ⟨at_, resolve_of_keepsDirectories h.directories hresolve, ?_⟩
  rw [h.files at_, hfile]

end Following

/-! ## What is at a place -/

section Putting

variable {fs : FileSystem} {at_ : Location} {n : Node}

/-- A place that is no directory by its nature has what was put there. -/
theorem node?_put_self (h : (at_.all (· == "..") || at_ == ["/"]) = false) :
    (fs.put at_ n).node? at_ = some n := by
  unfold node?
  rw [if_neg (Bool.eq_false_iff.mp h)]
  exact Entries.get?_put_self _ _ _

theorem node?_put_of_ne {other : Location} (h : other ≠ at_) :
    (fs.put at_ n).node? other = fs.node? other := by
  unfold node?
  rw [show (fs.put at_ n).nodes = fs.nodes.put at_ n from rfl, Entries.get?_put_of_ne _ _ h]

/-- A place where no directory is, is none by its nature. -/
theorem not_always_directory (h : fs.node? at_ ≠ some .directory) :
    (at_.all (· == "..") || at_ == ["/"]) = false := by
  cases hb : at_.all (· == "..") || at_ == ["/"] with
  | false => rfl
  | true =>
    unfold node? at h
    rw [if_pos hb] at h
    exact absurd rfl h

/-- Where no directory is, something can be put without taking one away. -/
theorem keepsDirectories_put (h : fs.node? at_ ≠ some .directory) :
    KeepsDirectories fs (fs.put at_ n) := by
  intro other hd
  have hne : other ≠ at_ := by
    intro heq
    rw [heq] at hd
    exact h hd
  rw [node?_put_of_ne hne]
  exact hd

theorem node?_remove_self (h : (at_.all (· == "..") || at_ == ["/"]) = false) :
    (fs.remove at_).node? at_ = none := by
  unfold node?
  rw [if_neg (Bool.eq_false_iff.mp h)]
  exact Entries.get?_erase_self _ _

theorem node?_remove_of_ne {other : Location} (h : other ≠ at_) :
    (fs.remove at_).node? other = fs.node? other := by
  unfold node?
  rw [show (fs.remove at_).nodes = Entries.erase fs.nodes at_ from rfl,
    Entries.get?_erase_of_ne _ h]

end Putting

/-! ## Making directories -/

theorem sameFiles_of_makeDirectory {fs fs' : FileSystem} {p : Path}
    (h : fs.makeDirectory p = .ok fs') : SameFiles fs fs' := by
  unfold makeDirectory at h
  cases hresolve : fs.resolve p with
  | error t =>
    rw [hresolve] at h
    cases h
  | ok at_ =>
    rw [hresolve] at h
    dsimp only at h
    cases hnode : fs.node? at_ with
    | some node =>
      rw [hnode] at h
      cases h
    | none =>
      rw [hnode] at h
      cases h
      have hne : fs.node? at_ ≠ some .directory := by
        rw [hnode]
        exact Option.some_ne_none _ |>.symm
      refine ⟨keepsDirectories_put hne, fun other => ?_, rfl⟩
      -- the place itself had no file, and has none now
      unfold file?
      by_cases heq : other = at_
      · rw [heq, node?_put_self (not_always_directory hne), hnode]
      · rw [node?_put_of_ne heq]

/-- **Making directories leaves the files as they are**, also where it fails on
the way. -/
theorem sameFiles_makeDirectoriesFrom (fuel : Nat) (fs : FileSystem) (p : Path) :
    SameFiles fs (makeDirectoriesFrom fuel fs p).2 := by
  induction fuel generalizing p with
  | zero =>
    -- without fuel nothing is made but the directory itself
    unfold makeDirectoriesFrom
    cases hmake : fs.makeDirectory p with
    | ok fs' => exact sameFiles_of_makeDirectory hmake
    | error e =>
      dsimp only
      split
      · exact .refl fs
      · split <;> exact .refl fs
  | succ fuel ih =>
    unfold makeDirectoriesFrom
    cases hmake : fs.makeDirectory p with
    | ok fs' => exact sameFiles_of_makeDirectory hmake
    | error e =>
      dsimp only
      split
      · -- the way to the directory first, then the directory once more
        have hparent := ih p.parent
        cases hrest : makeDirectoriesFrom fuel fs p.parent with
        | mk outcome fs' =>
          rw [hrest] at hparent
          cases outcome with
          | error e => exact hparent
          | ok u =>
            dsimp only
            cases hagain : fs'.makeDirectory p with
            | ok fs'' => exact hparent.trans (sameFiles_of_makeDirectory hagain)
            | error e =>
              dsimp only
              split <;> exact hparent
      · split <;> exact .refl fs

theorem sameFiles_makeDirectories (fs : FileSystem) (p : Path) :
    SameFiles fs (fs.makeDirectories p).2 :=
  sameFiles_makeDirectoriesFrom _ fs p

/-! ## Replacing what a file holds -/

section Replacing

variable {fs fs' : FileSystem} {p : Path} {c : Contents}

/-- **A file is replaced** where its path leads, unless there is a directory. -/
theorem put_of_replace (h : fs.replace p c = .ok fs') :
    ∃ at_, fs.resolve p = .ok at_ ∧ fs.node? at_ ≠ some .directory
      ∧ fs' = fs.put at_ (.file c) := by
  unfold replace at h
  cases hresolve : fs.resolve p with
  | error t =>
    rw [hresolve] at h
    cases h
  | ok at_ =>
    rw [hresolve] at h
    dsimp only at h
    refine ⟨at_, rfl, fun hnode => ?_, ?_⟩
    · rw [hnode] at h
      cases h
    · split at h
      · cases h
      · cases h
        rfl

/-- Replacing a file takes no directory away. -/
theorem keepsDirectories_of_replace (h : fs.replace p c = .ok fs') : KeepsDirectories fs fs' := by
  obtain ⟨at_, -, hne, rfl⟩ := put_of_replace h
  exact keepsDirectories_put hne

/-- The path of a file that was replaced leads to where it was put, and other
places have what they had. -/
theorem file?_of_replace (h : fs.replace p c = .ok fs') :
    ∃ at_, fs'.resolve p = .ok at_ ∧ fs'.file? at_ = some c
      ∧ ∀ other, other ≠ at_ → fs'.file? other = fs.file? other := by
  have hkeeps := keepsDirectories_of_replace h
  obtain ⟨at_, hresolve, hne, rfl⟩ := put_of_replace h
  -- a directory is not replaced, so the path does not lead through the file
  refine ⟨at_, resolve_of_keepsDirectories hkeeps hresolve, ?_, fun other hother => ?_⟩
  · unfold file?
    rw [node?_put_self (not_always_directory hne)]
  · unfold file?
    rw [node?_put_of_ne hother]

/-- **What a file was replaced with is read under its path.** -/
theorem contents_of_replace (h : fs.replace p c = .ok fs') : fs'.contents p = .ok c := by
  obtain ⟨at_, hresolve, hfile, -⟩ := file?_of_replace h
  exact contents_eq_ok_iff.mpr ⟨at_, hresolve, hfile⟩

/-- **Every other file reads as before**, if its path leads to another place. -/
theorem contents_of_replace_of_ne (h : fs.replace p c = .ok fs') {q : Path} {c' : Contents}
    (hq : fs.contents q = .ok c') (hne : fs'.resolve q ≠ fs'.resolve p) :
    fs'.contents q = .ok c' := by
  have hkeeps := keepsDirectories_of_replace h
  obtain ⟨at_, hresolve, -, hothers⟩ := file?_of_replace h
  obtain ⟨other, hother, hfile⟩ := contents_eq_ok_iff.mp hq
  rw [resolve_of_keepsDirectories hkeeps hother, hresolve] at hne
  refine contents_eq_ok_iff.mpr ⟨other, resolve_of_keepsDirectories hkeeps hother, ?_⟩
  rw [hothers other fun heq => hne (congrArg Except.ok heq), hfile]

end Replacing

/-! ## Writing texts -/

/-- **The same files but for one that is now empty**: the one that a path leads
to. -/
structure Emptied (fs fs' : FileSystem) (p : Path) : Prop where
  /-- Directories stay. -/
  directories : KeepsDirectories fs fs'
  /-- Nothing is read under the path. -/
  contents : fs'.contents p = .ok (.text "")
  /-- No other file appears, changes or disappears. -/
  others : ∀ at_, fs'.resolve p ≠ .ok at_ → fs'.file? at_ = fs.file? at_

section Writing

variable {fs fs' fs'' : FileSystem} {p : Path}

theorem emptied_of_replace (h : fs.replace p (.text "") = .ok fs') : Emptied fs fs' p := by
  obtain ⟨at_, hresolve, -, hothers⟩ := file?_of_replace h
  refine ⟨keepsDirectories_of_replace h, contents_of_replace h, fun other hother => ?_⟩
  exact hothers other fun heq => hother (heq ▸ hresolve)

theorem SameFiles.emptied (h : SameFiles fs fs') (h' : Emptied fs' fs'' p) : Emptied fs fs'' p :=
  ⟨fun at_ hd => h'.directories at_ (h.directories at_ hd), h'.contents,
    fun at_ hat => (h'.others at_ hat).trans (h.files at_)⟩

theorem Emptied.sameFiles (h : Emptied fs fs' p) (h' : SameFiles fs' fs'') : Emptied fs fs'' p := by
  refine ⟨fun at_ hd => h'.directories at_ (h.directories at_ hd), h'.contents h.contents,
    fun at_ hat => (h'.files at_).trans (h.others at_ fun hresolve => hat ?_)⟩
  exact resolve_of_keepsDirectories h'.directories hresolve

/-- Every file but the one that was emptied reads as before. -/
theorem Emptied.contents_of_ne (h : Emptied fs fs' p) {q : Path} {c : Contents}
    (hq : fs.contents q = .ok c) (hne : fs'.resolve q ≠ fs'.resolve p) :
    fs'.contents q = .ok c := by
  obtain ⟨at_, hresolve, hfile⟩ := contents_eq_ok_iff.mp hq
  rw [resolve_of_keepsDirectories h.directories hresolve] at hne
  exact contents_eq_ok_iff.mpr ⟨at_, resolve_of_keepsDirectories h.directories hresolve,
    (h.others at_ hne.symm).trans hfile⟩

/-- A text without bytes, for a path that has some, leaves the file empty. -/
theorem write_of_unencodable {s : String} {u : Text.Unencodable}
    (hpath : Text.unencodable? fs.halves.inPaths p.text = none)
    (hs : Text.unencodable? fs.halves s = some u)
    (hreplace : fs.replace p (.text "") = .ok fs') :
    fs.write p s = (.error ⟨.unencodable u, p.text⟩, fs') := by
  unfold write
  rw [hpath, hs]
  dsimp only
  rw [hreplace]

/-- **Writing a text** has three outcomes. It fails, and nothing changes; or the
text has no bytes, and the file is emptied; or the file holds the text. -/
theorem write_cases (fs : FileSystem) (p : Path) (s : String) :
    (∃ e, fs.write p s = (.error e, fs))
      ∨ (∃ u fs', Text.unencodable? fs.halves s = some u ∧ fs.replace p (.text "") = .ok fs'
        ∧ fs.write p s = (.error ⟨.unencodable u, p.text⟩, fs'))
      ∨ ∃ fs', Text.unencodable? fs.halves s = none ∧ fs.replace p (.text s) = .ok fs'
        ∧ fs.write p s = (.ok (), fs') := by
  unfold write
  cases Text.unencodable? fs.halves.inPaths p.text with
  | some u => exact .inl ⟨_, rfl⟩
  | none =>
    cases Text.unencodable? fs.halves s with
    | some u =>
      dsimp only
      cases hreplace : fs.replace p (.text "") with
      | error e => exact .inl ⟨e, rfl⟩
      | ok fs' => exact .inr (.inl ⟨u, fs', rfl, rfl, rfl⟩)
    | none =>
      dsimp only
      cases hreplace : fs.replace p (.text s) with
      | error e => exact .inl ⟨e, rfl⟩
      | ok fs' => exact .inr (.inr ⟨fs', rfl, rfl, rfl⟩)

end Writing

end FileSystem

end Covenant
