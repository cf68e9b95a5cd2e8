import Covenant.Proofs.Log.Lines
import Covenant.Proofs.Place

/-!
# Log files

A log is written to one file, and when that is full it is set aside: the files lie side
by side under names with numbers (`logFile_eq`), and each of them moves up by one
(`LogPlaces.rotate`). What comes of it is told group by group: the files hold the last
of all records, one file after the other, and none goes but those of the oldest file
when as many are set aside as are to be kept (`LogFiles`).

Appending a record's line keeps this (`LogFiles.append`), and so does any number of
records (`LogFiles.run`). With what a line is, that makes a log readable
(`log_read_back`): whatever the records tell, each file is split into lines at its line
breaks, and each line is the document of one record.

It takes that no directory lies where a file of the log goes, which moving files would
take away with what is in it.
-/

namespace Covenant

namespace Logging

variable {fs : FileSystem} {path : Path} {limit : Int} {keep : Nat}

/-! ## The paths of a log -/

/-- **The files of a log**: the one that is written to, and those set aside, the
latest first. -/
def logFile (path : Path) : Nat → Path
  | 0 => path
  | n + 1 => asidePath path (n + 1)

/-- The last file but one is moved up first. -/
theorem moveUp_succ (fs : FileSystem) (path : Path) (n : Nat) : moveUp fs path (n + 1)
    = moveUp (move fs (logFile path (n + 1)) (logFile path (n + 1 + 1))) path n := by
  -- the recursion is laid open first, since the files before and after are not alike
  delta moveUp
  rfl

/-- The name of a file of the log. -/
def logName (name : String) : Nat → String
  | 0 => name
  | n + 1 => name ++ "." ++ natText (n + 1)

theorem natText_injective {m n : Nat} (h : natText m = natText n) : m = n := by
  have hdigits : natDigits m = natDigits n := String.ofList_injective h
  rw [← Json.digitsValue_natDigits m, hdigits, Json.digitsValue_natDigits]

theorem logName_injective {name : String} {m n : Nat} (h : logName name m = logName name n) :
    m = n := by
  have hlonger : ∀ k, logName name 0 ≠ logName name (k + 1) := fun k heq => by
    have hlength := congrArg String.length heq
    simp only [logName, String.length_append, show ".".length = 1 from rfl] at hlength
    omega
  cases m with
  | zero =>
    cases n with
    | zero => rfl
    | succ n => exact absurd h (hlonger n)
  | succ m =>
    cases n with
    | zero => exact absurd h.symm (hlonger m)
    | succ n => exact natText_injective ((String.append_right_inj _).mp h)

theorem isName_logName {name : String} (h : Path.IsName name) (hup : name ≠ "..") (k : Nat) :
    Path.IsName (logName name k) ∧ logName name k ≠ ".." := by
  cases k with
  | zero => exact ⟨h, hup⟩
  | succ n =>
    have hchars : (logName name (n + 1)).toList = name.toList ++ '.' :: natDigits (n + 1) := by
      rw [logName, String.toList_append, String.toList_append, List.append_assoc,
        show (natText (n + 1)).toList = natDigits (n + 1) from String.toList_ofList]
      rfl
    refine Path.isName_of_length ?_ fun hmem => ?_
    · have hname : 0 < name.toList.length := List.length_pos_of_ne_nil fun heq =>
        h.nonempty (String.toList_eq_nil_iff.mp heq)
      have hdigits := List.length_pos_of_ne_nil (natDigits_ne_nil (n + 1))
      rw [hchars, List.length_append, List.length_cons]
      omega
    · rw [hchars] at hmem
      obtain hmem | hmem := List.mem_append.mp hmem
      · exact h.plain hmem
      · obtain heq | hmem := List.mem_cons.mp hmem
        · exact absurd heq (by decide)
        · exact absurd (isDigit_of_mem_natDigits hmem) (by decide)

/-- More at the end of the last part is more at the end of the parts in a row. -/
theorem intercalate_append_last (parts : List (List Char)) (last more : List Char) :
    ['/'].intercalate (parts ++ [last ++ more]) = ['/'].intercalate (parts ++ [last]) ++ more := by
  induction parts with
  | nil => simp [List.intercalate_singleton]
  | cons part parts ih =>
    cases parts with
    | nil => simp [List.intercalate_cons_cons, List.intercalate_singleton]
    | cons q qs =>
      simp only [List.cons_append] at ih ⊢
      rw [List.intercalate_cons_cons, List.intercalate_cons_cons, ih]
      simp only [List.append_assoc]

theorem text_append_last (root name more : String) (names : List String) :
    Path.text ⟨root, names ++ [name ++ more]⟩ = Path.text ⟨root, names ++ [name]⟩ ++ more := by
  have hnames : ∀ last : String, ¬ (root = "" ∧ names ++ [last] = []) := fun last hnone =>
    List.append_ne_nil_of_right_ne_nil names (List.cons_ne_nil last []) hnone.2
  refine String.toList_injective ?_
  rw [String.toList_append, Path.toList_text (hnames _), Path.toList_text (hnames _),
    List.map_append, List.map_append, List.map_singleton, List.map_singleton, String.toList_append,
    intercalate_append_last, List.append_assoc]

/-- **The files of a log lie side by side.** -/
theorem logFile_eq {dir : Path} {name : String} (hdir : dir.Proper) (hname : Path.IsName name)
    (hup : name ≠ "..") (k : Nat) :
    logFile (dir ++ Path.ofText name) k = ⟨dir.root, dir.names ++ [logName name k]⟩ := by
  rw [Path.append_of_isName dir hname]
  cases k with
  | zero => rfl
  | succ n =>
    have hproper : Path.Proper ⟨dir.root, dir.names ++ [logName name (n + 1)]⟩ :=
      ⟨hdir.root, fun m hm => (List.mem_append.mp hm).elim (hdir.names m) fun hlast =>
        List.mem_singleton.mp hlast ▸ (isName_logName hname hup (n + 1)).1⟩
    have htext : Path.text ⟨dir.root, dir.names ++ [name]⟩ ++ "." ++ natText (n + 1)
        = Path.text ⟨dir.root, dir.names ++ [logName name (n + 1)]⟩ := by
      rw [logName, String.append_assoc, String.append_assoc, text_append_last]
    exact (congrArg Path.ofText htext).trans (Path.ofText_text hproper)

/-! ## Moving files -/

/-- **What is where after a file was moved.** -/
theorem node?_move {source target : Path} {a b : Location} (hsource : fs.resolve source = .ok a)
    (htarget : fs.resolve target = .ok b) (ha : fs.node? a ≠ some .directory)
    (hb : fs.node? b ≠ some .directory) (x : Location) :
    (move fs source target).node? x
      = if x = a then none else if x = b then (fs.node? a).or (fs.node? b) else fs.node? x := by
  unfold move
  rw [hsource, htarget]
  dsimp only
  cases hnode : fs.node? a with
  | none =>
    dsimp only
    rw [Option.none_or]
    split
    · rename_i hx
      rw [hx, hnode]
    · split
      · rename_i hx
        rw [hx]
      · rfl
  | some n =>
    dsimp only
    by_cases hxa : x = a
    · rw [if_pos hxa, hxa]
      exact FileSystem.node?_remove_self (FileSystem.not_always_directory ha)
    · rw [if_neg hxa, FileSystem.node?_remove_of_ne hxa]
      by_cases hxb : x = b
      · rw [if_pos hxb, hxb]
        exact FileSystem.node?_put_self (FileSystem.not_always_directory hb)
      · rw [if_neg hxb, FileSystem.node?_put_of_ne hxb, FileSystem.node?_remove_of_ne hxb]

theorem keepsDirectories_move {source target : Path} {a b : Location}
    (hsource : fs.resolve source = .ok a)
    (htarget : fs.resolve target = .ok b) (ha : fs.node? a ≠ some .directory)
    (hb : fs.node? b ≠ some .directory) : FileSystem.KeepsDirectories fs (move fs source target) := by
  intro x hx
  have hxa : x ≠ a := fun heq => ha (heq ▸ hx)
  have hxb : x ≠ b := fun heq => hb (heq ▸ hx)
  rw [node?_move hsource htarget ha hb, if_neg hxa, if_neg hxb, hx]

/-! ## Setting files aside -/

/-- **Where the files of a log lie**: each at a place of its own, where no directory is. -/
structure LogPlaces (fs : FileSystem) (path : Path) (keep : Nat) (place : Nat → Location) :
    Prop where
  resolve : ∀ k ≤ keep, fs.resolve (logFile path k) = .ok (place k)
  distinct : ∀ k ≤ keep, ∀ m ≤ keep, place k = place m → k = m
  files : ∀ k ≤ keep, fs.node? (place k) ≠ some .directory

namespace LogPlaces

variable {place : Nat → Location}

/-- **A file moved up by one**: the next one is what it was, unless it was missing. -/
theorem move_up (h : LogPlaces fs path keep place) {n : Nat} (hn : n < keep) :
    LogPlaces (move fs (logFile path n) (logFile path (n + 1))) path keep place
      ∧ ∀ k ≤ keep, (move fs (logFile path n) (logFile path (n + 1))).node? (place k)
        = if k = n then none
          else if k = n + 1 then (fs.node? (place n)).or (fs.node? (place (n + 1)))
          else fs.node? (place k) := by
  have hsource := h.resolve n (Nat.le_of_lt hn)
  have htarget := h.resolve (n + 1) hn
  have hn₀ := h.files n (Nat.le_of_lt hn)
  have hn₁ := h.files (n + 1) hn
  have hnodes : ∀ k ≤ keep, (move fs (logFile path n) (logFile path (n + 1))).node? (place k)
      = if k = n then none
        else if k = n + 1 then (fs.node? (place n)).or (fs.node? (place (n + 1)))
        else fs.node? (place k) := by
    intro k hk
    have hplace : ∀ m ≤ keep, (place k = place m) = (k = m) := fun m hm =>
      propext ⟨h.distinct k hk m hm, congrArg place⟩
    rw [node?_move hsource htarget hn₀ hn₁]
    simp only [hplace n (Nat.le_of_lt hn), hplace (n + 1) hn]
  have hkeeps := keepsDirectories_move hsource htarget hn₀ hn₁
  refine ⟨⟨fun k hk => FileSystem.resolve_of_keepsDirectories hkeeps (h.resolve k hk), h.distinct,
    fun k hk => ?_⟩, hnodes⟩
  rw [hnodes k hk]
  split
  · exact fun heq => nomatch heq
  · split
    · cases hnode : fs.node? (place n) with
      | none => exact hn₁
      | some node =>
        rw [hnode] at hn₀
        exact hn₀
    · exact h.files k hk

/-- **The files set aside moved up by one**, if there are no gaps among them. -/
theorem moveUp (h : LogPlaces fs path keep place) {n : Nat} (hn : n < keep)
    (hgap : ∀ k, 0 < k → k ≤ n → fs.node? (place k) = none → fs.node? (place (k + 1)) = none) :
    LogPlaces (Logging.moveUp fs path n) path keep place
      ∧ (∀ k ≤ keep, k = 0 ∨ n + 1 < k →
        (Logging.moveUp fs path n).node? (place k) = fs.node? (place k))
      ∧ ∀ k, 0 < k → k ≤ n →
        (Logging.moveUp fs path n).node? (place (k + 1)) = fs.node? (place k) := by
  induction n generalizing fs with
  | zero => exact ⟨h, fun _ _ _ => rfl, fun k hpos hk => absurd hpos (Nat.not_lt.mpr hk)⟩
  | succ n ih =>
    -- the last but one goes first, and what it leaves is free for the one before it
    obtain ⟨hplaces, hmoved⟩ := h.move_up hn
    have hlast := hgap (n + 1) n.succ_pos (Nat.le_refl _)
    rw [moveUp_succ]
    generalize move fs (logFile path (n + 1)) (logFile path (n + 2)) = fs₁ at hplaces hmoved ⊢
    have hgap₁ : ∀ k, 0 < k → k ≤ n → fs₁.node? (place k) = none →
        fs₁.node? (place (k + 1)) = none := by
      intro k hpos hk hnone
      rw [hmoved k (by omega), if_neg (by omega), if_neg (by omega)] at hnone
      rw [hmoved (k + 1) (by omega)]
      split
      · rfl
      · rw [if_neg (by omega)]
        exact hgap k hpos (by omega) hnone
    obtain ⟨hplaces₁, hstay, hshift⟩ := ih hplaces (by omega) hgap₁
    refine ⟨hplaces₁, fun k hk hout => ?_, fun k hpos hk => ?_⟩
    · rw [hstay k hk (by omega), hmoved k hk, if_neg (by omega), if_neg (by omega)]
    · obtain hk | rfl : k ≤ n ∨ k = n + 1 := by omega
      · rw [hshift k hpos hk, hmoved k (by omega), if_neg (by omega), if_neg (by omega)]
      · rw [hstay (n + 2) (by omega) (.inr (by omega)), hmoved (n + 2) (by omega),
          if_neg (by omega), if_pos rfl]
        cases hnode : fs.node? (place (n + 1)) with
        | none => exact hlast hnode
        | some node => rfl

/-- A file of the log written anew: the others stay. -/
theorem replace (h : LogPlaces fs path keep place) (c : Contents) :
    ∃ fs', fs.replace path c = .ok fs' ∧ LogPlaces fs' path keep place
      ∧ fs'.node? (place 0) = some (.file c)
      ∧ ∀ k ≤ keep, k ≠ 0 → fs'.node? (place k) = fs.node? (place k) := by
  have hresolve := h.resolve 0 (Nat.zero_le _)
  have hfile := h.files 0 (Nat.zero_le _)
  have hself : (fs.put (place 0) (.file c)).node? (place 0) = some (.file c) :=
    FileSystem.node?_put_self (FileSystem.not_always_directory hfile)
  have hothers : ∀ k ≤ keep, k ≠ 0 →
      (fs.put (place 0) (.file c)).node? (place k) = fs.node? (place k) :=
    fun k hk hne => FileSystem.node?_put_of_ne fun heq =>
      hne (h.distinct k hk 0 (Nat.zero_le _) heq)
  have hwrite : fs.replace path c = .ok (fs.put (place 0) (.file c)) := by
    unfold FileSystem.replace
    rw [show fs.resolve path = .ok (place 0) from hresolve]
    dsimp only
    split
    · rename_i hdirectory
      exact absurd hdirectory hfile
    · rfl
  refine ⟨_, hwrite, ⟨fun k hk => FileSystem.resolve_of_keepsDirectories
    (FileSystem.keepsDirectories_put hfile) (h.resolve k hk), h.distinct, fun k hk => ?_⟩,
    hself, hothers⟩
  by_cases hzero : k = 0
  · rw [hzero, hself]
    exact fun heq => nomatch heq
  · rw [hothers k hk hzero]
    exact h.files k hk

/-- **The file of the log set aside**: every file is what the one before it was, and the
first one is empty. -/
theorem rotate (h : LogPlaces fs path keep place) (hkeep : 0 < keep)
    (hgap : ∀ k < keep, fs.node? (place k) = none → fs.node? (place (k + 1)) = none)
    (hcurrent : fs.node? (place 0) ≠ none) :
    LogPlaces (Logging.rotate fs path keep) path keep place
      ∧ (Logging.rotate fs path keep).node? (place 0) = some (.file (.text ""))
      ∧ ∀ k < keep, (Logging.rotate fs path keep).node? (place (k + 1)) = fs.node? (place k) := by
  obtain ⟨n, rfl⟩ := Nat.exists_eq_succ_of_ne_zero (Nat.ne_of_gt hkeep)
  obtain ⟨hplaces, hstay, hshift⟩ := h.moveUp n.lt_succ_self
    fun k _ hk => hgap k (Nat.lt_succ_of_le hk)
  obtain ⟨hplaces₁, hmoved⟩ := hplaces.move_up n.succ_pos
  obtain ⟨fs', hwrite, hplaces', hself, hothers⟩ := hplaces₁.replace (.text "")
  have hrotate : Logging.rotate fs path (n + 1) = fs' := by
    unfold Logging.rotate
    dsimp only
    rw [show move (Logging.moveUp fs path n) path (asidePath path 1)
      = move (Logging.moveUp fs path n) (logFile path 0) (logFile path (0 + 1)) from rfl, hwrite]
  rw [hrotate]
  refine ⟨hplaces', hself, fun k hk => ?_⟩
  rw [hothers (k + 1) hk (Nat.succ_ne_zero k), hmoved (k + 1) hk, if_neg (Nat.succ_ne_zero k)]
  by_cases hzero : k = 0
  · rw [if_pos (by omega), hzero, hstay 0 (Nat.zero_le _) (.inl rfl)]
    cases hnode : fs.node? (place 0) with
    | none => exact absurd hnode hcurrent
    | some node => rfl
  · rw [if_neg (by omega), hshift k (by omega) (by omega)]

end LogPlaces

/-! ## What the files hold -/

/-- **A file that holds the lines of records**, one after the other. -/
def HoldsLog (n : Node) (ts : List RecordTexts) : Prop :=
  ∃ lines, n = .file (.text (logText lines)) ∧ List.Forall₂ RecordTexts.IsLine ts lines

/-- **The files of a log hold the last of the records**, one file after the other: those
set aside hold the earlier ones, and no file is missing between two others. Records go
only when as many files are set aside as are to be kept. -/
structure LogFiles (fs : FileSystem) (path : Path) (limit : Int) (keep : Nat)
    (place : Nat → Location) (chunks : List (List RecordTexts)) (ts : List RecordTexts) :
    Prop where
  places : LogPlaces fs path keep place
  holds : ∀ k ≤ keep, Option.Rel HoldsLog (fs.node? (place k)) chunks[k]?
  started : chunks ≠ []
  number : chunks.length ≤ keep + 1
  last : chunks.reverse.flatten <:+ ts
  whole : chunks.reverse.flatten = ts ∨ 0 < limit ∧ 0 < keep ∧ chunks.length = keep + 1

namespace LogFiles

variable {place : Nat → Location} {chunks : List (List RecordTexts)} {ts : List RecordTexts}
  {t : RecordTexts} {line : String}

/-- The files that are there are as many as there are groups of records. -/
theorem missing_iff (h : LogFiles fs path limit keep place chunks ts) {k : Nat} (hk : k ≤ keep) :
    fs.node? (place k) = none ↔ chunks.length ≤ k := by
  have hrel := h.holds k hk
  rw [← List.getElem?_eq_none_iff]
  generalize fs.node? (place k) = node at hrel
  generalize chunks[k]? = chunk at hrel
  cases hrel with
  | none => exact ⟨fun _ => rfl, fun _ => rfl⟩
  | some hrel => exact ⟨fun heq => (nomatch heq), fun heq => (nomatch heq)⟩

/-- **Setting the file aside** keeps all records, but for those of the oldest file if it
goes. -/
theorem rotate (h : LogFiles fs path limit keep place chunks ts) (hlimit : 0 < limit) :
    ∃ chunks', LogFiles (Logging.rotate fs path keep) path limit keep place chunks' ts := by
  obtain rfl | hkeep := Nat.eq_zero_or_pos keep
  · exact ⟨chunks, h⟩
  have hgap : ∀ k < keep, fs.node? (place k) = none → fs.node? (place (k + 1)) = none :=
    fun k hk hnone => (h.missing_iff hk).mpr
      (Nat.le_succ_of_le ((h.missing_iff (Nat.le_of_lt hk)).mp hnone))
  have hcurrent : fs.node? (place 0) ≠ none := fun hnone =>
    h.started (List.length_eq_zero_iff.mp (Nat.le_zero.mp
      ((h.missing_iff (Nat.zero_le _)).mp hnone)))
  obtain ⟨hplaces, hself, hshift⟩ := h.places.rotate hkeep hgap hcurrent
  -- the records in the file that goes, if one does, are the first ones
  have hsplit : chunks.reverse.flatten
      = (chunks.drop keep).reverse.flatten ++ ([] :: chunks.take keep).reverse.flatten := by
    rw [List.reverse_cons, List.flatten_append, List.flatten_singleton, List.append_nil,
      ← List.flatten_append, ← List.reverse_append, List.take_append_drop]
  refine ⟨[] :: chunks.take keep, hplaces, fun k hk => ?_, List.cons_ne_nil _ _, ?_, ?_, ?_⟩
  · cases k with
    | zero =>
      rw [hself]
      exact .some ⟨[], rfl, .nil⟩
    | succ k =>
      rw [hshift k hk, List.getElem?_cons_succ, List.getElem?_take_of_lt hk]
      exact h.holds k (Nat.le_of_lt hk)
  · rw [List.length_cons, List.length_take]
    exact Nat.succ_le_succ (Nat.min_le_left _ _)
  · exact List.IsSuffix.trans ⟨_, hsplit.symm⟩ h.last
  · by_cases hfull : keep < chunks.length
    · right
      rw [List.length_cons, List.length_take, Nat.min_eq_left (Nat.le_of_lt hfull)]
      exact ⟨hlimit, hkeep, rfl⟩
    · left
      rw [List.drop_eq_nil_of_le (Nat.le_of_not_lt hfull)] at hsplit
      obtain hwhole | ⟨-, -, hlength⟩ := h.whole
      · exact hsplit.symm.trans hwhole
      · exact absurd (hlength ▸ Nat.lt_succ_self keep) hfull

/-- What the file that is written to holds. -/
theorem current (h : LogFiles fs path limit keep place chunks ts) :
    ∃ us rest lines, chunks = us :: rest ∧ fs.contents path = .ok (.text (logText lines))
      ∧ List.Forall₂ RecordTexts.IsLine us lines := by
  obtain ⟨us, rest, rfl⟩ := List.exists_cons_of_ne_nil h.started
  have hrel := h.holds 0 (Nat.zero_le _)
  rw [List.getElem?_cons_zero] at hrel
  generalize hnode : fs.node? (place 0) = node at hrel
  cases hrel with
  | some hrel =>
    obtain ⟨lines, rfl, hlines⟩ := hrel
    refine ⟨us, rest, lines, rfl, FileSystem.contents_eq_ok_iff.mpr
      ⟨place 0, h.places.resolve 0 (Nat.zero_le _), ?_⟩, hlines⟩
    unfold FileSystem.file?
    rw [hnode]

/-- **A line added to the file that is written to.** -/
theorem add (h : LogFiles fs path limit keep place chunks ts) (hline : t.IsLine line) :
    ∃ c fs' chunks', fs.contents path = .ok c ∧ fs.replace path (added c (line ++ "\n")) = .ok fs'
      ∧ LogFiles fs' path limit keep place chunks' (ts ++ [t]) := by
  obtain ⟨us, rest, lines, rfl, hcontents, hlines⟩ := h.current
  obtain ⟨fs', hwrite, hplaces, hself, hothers⟩ :=
    h.places.replace (added (.text (logText lines)) (line ++ "\n"))
  have hflatten : ((us ++ [t]) :: rest).reverse.flatten = (us :: rest).reverse.flatten ++ [t] := by
    simp only [List.reverse_cons, List.flatten_append, List.flatten_singleton, List.append_assoc]
  refine ⟨_, fs', (us ++ [t]) :: rest, hcontents, hwrite, hplaces, fun k hk => ?_,
    List.cons_ne_nil _ _, h.number, ?_, ?_⟩
  · cases k with
    | zero =>
      rw [hself, added, ← logText_concat]
      exact .some ⟨_, rfl, List.rel_append hlines (.cons hline .nil)⟩
    | succ k =>
      rw [hothers (k + 1) hk (Nat.succ_ne_zero k)]
      exact h.holds (k + 1) hk
  · rw [hflatten]
    obtain ⟨before, hbefore⟩ := h.last
    exact ⟨before, by rw [← hbefore, List.append_assoc]⟩
  · rw [hflatten]
    exact h.whole.imp_left fun hwhole => by rw [hwhole]

/-- **A record's line appended**, and the file set aside before if it has to be. -/
theorem append (h : LogFiles fs path limit keep place chunks ts) (hline : t.IsLine line) :
    ∃ chunks', LogFiles (Logging.append fs path limit keep line) path limit keep place chunks'
      (ts ++ [t]) := by
  obtain ⟨us, rest, lines, -, hcurrent, -⟩ := h.current
  unfold Logging.append
  rw [hcurrent]
  dsimp only
  by_cases hfull : (decide (0 < limit) && decide (limit ≤
      (size (.text (logText lines)) + (line ++ "\n").length : Nat))) = true
  · -- it is set aside only if it has a limit
    obtain ⟨chunks₁, h₁⟩ := h.rotate (of_decide_eq_true (Bool.and_eq_true_iff.mp hfull).1)
    obtain ⟨c, fs', chunks', hcontents, hwrite, h'⟩ := h₁.add hline
    rw [if_pos hfull, hcontents]
    dsimp only
    rw [hwrite]
    exact ⟨chunks', h'⟩
  · obtain ⟨c, fs', chunks', hcontents, hwrite, h'⟩ := h.add hline
    rw [if_neg hfull, hcontents]
    dsimp only
    rw [hwrite]
    exact ⟨chunks', h'⟩

/-- **Any number of records handled**, one after the other. -/
theorem run {rs : List LogRecord} {ts' : List RecordTexts}
    (hrecords : List.Forall₂ LogRecord.Tells rs ts') {done : Emission}
    (h : LogFiles done.files path limit keep place chunks ts) :
    ∃ done' chunks', rs.foldlM (fun done r => Emission.writeTo r done (.file path limit keep)) done
        = .ok done'
      ∧ LogFiles done'.files path limit keep place chunks' (ts ++ ts') := by
  induction hrecords generalizing done chunks ts with
  | nil => exact ⟨done, chunks, rfl, (List.append_nil ts).symm ▸ h⟩
  | @cons r t rs ts' hrecord _ ih =>
    obtain ⟨line, hwritten, hline⟩ := LogRecord.exists_line hrecord
    obtain ⟨chunks₁, h₁⟩ := h.append hline
    have hnext : LogFiles ({ done with
        files := Logging.append done.files path limit keep line } : Emission).files
        path limit keep place chunks₁ (ts ++ [t]) := h₁
    have hstep : Emission.writeTo r done (.file path limit keep)
        = .ok { done with files := Logging.append done.files path limit keep line } := by
      unfold Emission.writeTo
      rw [hwritten]
      rfl
    obtain ⟨done', chunks', hrun, h'⟩ := ih hnext
    refine ⟨done', chunks', ?_, ?_⟩
    · rw [List.foldlM_cons, hstep]
      exact hrun
    · rw [List.append_assoc] at h'
      exact h'

/-- **What is in a file of the log** is split at the line breaks into lines, one for each
of the records that the file holds. -/
theorem splitOn_contents (h : LogFiles fs path limit keep place chunks ts) {k : Nat} (hk : k ≤ keep)
    {c : Contents} (hcontents : fs.contents (logFile path k) = .ok c) :
    ∃ us s lines, chunks[k]? = some us ∧ c = .text s
      ∧ s.toList.splitOn '\n' = lines.map String.toList ++ [[]]
      ∧ List.Forall₂ RecordTexts.IsLine us lines := by
  obtain ⟨x, hresolve, hfile⟩ := FileSystem.contents_eq_ok_iff.mp hcontents
  obtain rfl := Except.ok.inj ((h.places.resolve k hk).symm.trans hresolve)
  have hrel := h.holds k hk
  generalize hnode : fs.node? (place k) = node at hrel
  generalize hchunk : chunks[k]? = chunk at hrel
  unfold FileSystem.file? at hfile
  rw [hnode] at hfile
  cases hrel with
  | none => cases hfile
  | @some node us hrel =>
    obtain ⟨lines, rfl, hlines⟩ := hrel
    exact ⟨us, logText lines, lines, rfl, (Option.some.inj hfile).symm,
      splitOn_logText (RecordTexts.forall_lineBreak_not_mem hlines), hlines⟩

end LogFiles

/-- The files of a log lie at different places: they have different names, in one
directory. -/
theorem logFile_injective {dir : Path} {name : String} (hdir : dir.Proper)
    (hname : Path.IsName name) (hup : name ≠ "..") {k m : Nat} {x : Location}
    (hk : fs.resolve (logFile (dir ++ Path.ofText name) k) = .ok x)
    (hm : fs.resolve (logFile (dir ++ Path.ofText name) m) = .ok x) : k = m := by
  rw [logFile_eq hdir hname hup] at hk hm
  obtain ⟨from_, -, -, hlast⟩ := FileSystem.exists_of_resolve rfl (isName_logName hname hup k).2 hk
  obtain ⟨from_', -, -, hlast'⟩ := FileSystem.exists_of_resolve rfl (isName_logName hname hup m).2 hm
  have hsame := List.append_inj_right' (hlast.symm.trans hlast') rfl
  exact logName_injective (List.singleton_inj.mp hsame)

/-- **A log that is started**: its file is empty, and nothing is set aside. -/
theorem logFiles_of_started {dir : Path} {name : String} (hdir : dir.Proper)
    (hname : Path.IsName name) (hup : name ≠ "..")
    (hresolve : ∀ k ≤ keep, ∃ x, fs.resolve (logFile (dir ++ Path.ofText name) k) = .ok x)
    (hcurrent : fs.contents (dir ++ Path.ofText name) = .ok (.text ""))
    (haside : ∀ k, 0 < k → k ≤ keep → fs.at? (logFile (dir ++ Path.ofText name) k) = none) :
    ∃ place, LogFiles fs (dir ++ Path.ofText name) limit keep place [[]] [] := by
  choose! place hplace using hresolve
  have hat : ∀ k ≤ keep, fs.at? (logFile (dir ++ Path.ofText name) k) = fs.node? (place k) := by
    intro k hk
    unfold FileSystem.at?
    rw [hplace k hk]
  have hnode : fs.node? (place 0) = some (.file (.text "")) := by
    obtain ⟨x, hx, hfile⟩ := FileSystem.contents_eq_ok_iff.mp hcurrent
    obtain rfl := Except.ok.inj ((hplace 0 (Nat.zero_le _)).symm.trans hx)
    unfold FileSystem.file? at hfile
    split at hfile
    · rename_i hnode
      rw [hnode, Option.some.inj hfile]
    · cases hfile
  have hmissing : ∀ k, 0 < k → k ≤ keep → fs.node? (place k) = none :=
    fun k hpos hk => (hat k hk).symm.trans (haside k hpos hk)
  refine ⟨place, ⟨hplace, fun k hk m hm heq => ?_, fun k hk => ?_⟩, fun k hk => ?_,
    List.cons_ne_nil _ _, Nat.le_add_left _ _, List.suffix_refl _, .inl rfl⟩
  · exact logFile_injective hdir hname hup (hplace k hk) (heq ▸ hplace m hm)
  · obtain rfl | hpos := Nat.eq_zero_or_pos k
    · rw [hnode]
      exact fun heq => nomatch heq
    · rw [hmissing k hpos hk]
      exact fun heq => nomatch heq
  · obtain rfl | hpos := Nat.eq_zero_or_pos k
    · rw [hnode]
      exact .some ⟨[], rfl, .nil⟩
    · rw [hmissing k hpos hk, List.getElem?_eq_none hpos]
      exact .none

/-! ## Every log can be read -/

/-- **A log is one document for each record.** Whatever characters are in what a record
tells, its line is printable ASCII, and it is read as a document of just that: the
session is a field if it has a name, and the exception if there is one. So where the
files of a log hold lines of records, they hold lines of records after any others have
been handled: those of all of them, unless there is a limit and as many files are set
aside as are to be kept, and else the last ones. Each file is split at the line breaks
into its lines, one for each of its records. -/
theorem log_read_back {rs : List LogRecord} {ts' : List RecordTexts}
    (hrecords : List.Forall₂ LogRecord.Tells rs ts') :
    List.Forall₂ (fun r t => ∃ line stamp, r.line = .ok line
      ∧ (∀ c ∈ line.toList, 0x20 ≤ c.toNat ∧ c.toNat ≤ 0x7e)
      ∧ Json.read? line = some t.document
      ∧ t.moment.stamp? = some stamp
      ∧ t.document.field? "timestamp" = some (.str (String.ofList stamp))
      ∧ t.document.field? "level" = some (.str t.level)
      ∧ t.document.field? "logger" = some (.str t.logger)
      ∧ t.document.field? "message" = some (.str t.message)
      ∧ (∀ j, t.document.field? "session_id" = some j
        ↔ ∃ s, t.session = some s ∧ s ≠ "" ∧ j = .str s)
      ∧ ∀ j, t.document.field? "exception" = some j
        ↔ ∃ kind message, t.exception = some (kind, message)
          ∧ j = .obj [("type", .str kind), ("message", .str message)]) rs ts'
    ∧ ∀ {done : Emission} {path : Path} {limit : Int} {keep : Nat} {place : Nat → Location}
        {chunks : List (List RecordTexts)} {ts : List RecordTexts},
      LogFiles done.files path limit keep place chunks ts →
      ∃ done' chunks', rs.foldlM (fun done r => Emission.writeTo r done (.file path limit keep)) done
          = .ok done'
        ∧ LogFiles done'.files path limit keep place chunks' (ts ++ ts')
        ∧ ∀ k ≤ keep, ∀ c, done'.files.contents (logFile path k) = .ok c →
          ∃ us s lines, chunks'[k]? = some us ∧ c = .text s
            ∧ s.toList.splitOn '\n' = lines.map String.toList ++ [[]]
            ∧ List.Forall₂ RecordTexts.IsLine us lines := by
  refine ⟨hrecords.imp fun r t h => ?_, fun h => ?_⟩
  · obtain ⟨line, hwritten, hline⟩ := LogRecord.exists_line h
    obtain ⟨stamp, hstamp, htext⟩ := LogRecord.exists_stamp h
    obtain ⟨htimestamp, hlevel, hlogger, hmessage⟩ := t.fields_document
    exact ⟨line, stamp, hwritten, hline.printable, hline.read, hstamp, htext ▸ htimestamp, hlevel,
      hlogger, hmessage, t.session_document, t.exception_document⟩
  · obtain ⟨done', chunks', hrun, h'⟩ := h.run hrecords
    exact ⟨done', chunks', hrun, h', fun k hk c hc => h'.splitOn_contents hk hc⟩

/-- A record with a line break, a quotation mark and a character that has two code units
in what it tells, and an exception. -/
def unrulyRecord : LogRecord where
  created := .int 0
  level := .int 40
  levelName := .str "ERROR"
  logger := .str "pactum.session"
  template := .str "it said \"no\"\nand left 🎉"
  arguments := .tuple []
  session := .str "s\t1"
  exception := .present (.mk "ValueError" true (some (.str "a\r\nb")) none)

/-- What it tells. -/
def unrulyTexts : RecordTexts where
  moment := ⟨0, 0⟩
  level := "ERROR"
  logger := "pactum.session"
  message := "it said \"no\"\nand left 🎉"
  session := some "s\t1"
  exception := some ("ValueError", "a\r\nb")

/-- Files with an empty log. -/
def startedFiles : FileSystem := { nodes := [(["pactum.log"], .file (.text ""))] }

/-- It is written on a line that tells it, and so is the record after it, for which the
file is set aside. -/
theorem log_read_back_unruly :
    (∃ line, unrulyRecord.line = .ok line ∧ Json.read? line = some unrulyTexts.document)
      ∧ ∃ done' place chunks', [unrulyRecord, unrulyRecord].foldlM (fun done r =>
          Emission.writeTo r done (.file (.ofText "pactum.log") 100 1)) ⟨true, "", startedFiles, none⟩
          = .ok done'
        ∧ LogFiles done'.files (.ofText "pactum.log") 100 1 place chunks'
          [unrulyTexts, unrulyTexts] := by
  have htells : unrulyRecord.Tells unrulyTexts :=
    { created := rfl
      inCalendar := ⟨by decide, by decide⟩
      level := rfl
      logger := rfl
      message := LogRecord.message_of_not_truthy rfl
      session := rfl
      exception := .present _ }
  have hresolve : ∀ k ≤ 1, ∃ x,
      startedFiles.resolve (logFile (Path.ofText "" ++ Path.ofText "pactum.log") k) = .ok x := by
    intro k hk
    obtain rfl | rfl := Nat.le_one_iff_eq_zero_or_eq_one.mp hk
    · exact ⟨["pactum.log"], rfl⟩
    · exact ⟨["pactum.log.1"], rfl⟩
  have haside : ∀ k, 0 < k → k ≤ 1 →
      startedFiles.at? (logFile (Path.ofText "" ++ Path.ofText "pactum.log") k) = none := by
    intro k hpos hk
    obtain rfl : k = 1 := by omega
    decide +kernel
  obtain ⟨place, hstarted⟩ : ∃ place, LogFiles startedFiles (Path.ofText "" ++ Path.ofText "pactum.log")
      100 1 place [[]] [] :=
    logFiles_of_started (Path.proper_ofText "") ⟨by decide, by decide, by decide⟩ (by decide)
      hresolve rfl haside
  obtain ⟨hlines, hfiles⟩ := log_read_back (.cons htells (.cons htells .nil))
  obtain ⟨⟨line, -, hwritten, -, hread, -⟩, -⟩ := List.forall₂_cons.mp hlines
  have hbegun : LogFiles (⟨true, "", startedFiles, none⟩ : Emission).files
      (Path.ofText "" ++ Path.ofText "pactum.log") 100 1 place [[]] [] := hstarted
  obtain ⟨done', chunks', hrun, hholds, -⟩ := hfiles hbegun
  exact ⟨⟨line, hwritten, hread⟩, done', place, chunks', hrun, hholds⟩

end Logging

end Covenant
