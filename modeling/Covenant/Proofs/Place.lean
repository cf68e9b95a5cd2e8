import Covenant.Proofs.Files
import Covenant.Proofs.Path

/-!
# The text of a path and the place of a file

A path that was read from a text, or put together from such paths, is proper
(`Path.Proper`): none of its names is empty, a point, or holds a slash. Its text
then says all there is to it (`Path.ofText_text`). It cannot be taken for an
address either, since two slashes in a row stand only at its front
(`Path.not_prefix_text`).

A file lies in the directory that its path leads through, under the last name of
the path (`FileSystem.exists_of_resolve`). So paths that differ in nothing but
the last name lead to different places.
-/

namespace Covenant

namespace Path

/-! ## Parts between slashes -/

/-- Characters in front of a slash are a part of their own. -/
theorem splitSlash_append_slash {cs : List Char} (h : '/' ∉ cs) (rest : List Char) :
    splitSlash (cs ++ '/' :: rest) = cs :: splitSlash rest := by
  induction cs with
  | nil => rw [List.nil_append, splitSlash]
  | cons c cs ih =>
    obtain ⟨hc, hcs⟩ := not_or.mp fun hmem => h (List.mem_cons.mpr hmem)
    rw [List.cons_append, splitSlash, ih hcs]
    exact fun heq => hc heq.symm

theorem splitSlash_of_not_mem {cs : List Char} (h : '/' ∉ cs) : splitSlash cs = [cs] := by
  induction cs with
  | nil => rfl
  | cons c cs ih =>
    obtain ⟨hc, hcs⟩ := not_or.mp fun hmem => h (List.mem_cons.mpr hmem)
    rw [splitSlash, ih hcs]
    exact fun heq => hc heq.symm

/-- **Parts that are put together with slashes are found again.** -/
theorem splitSlash_intercalate {parts : List (List Char)} (hne : parts ≠ [])
    (h : ∀ p ∈ parts, '/' ∉ p) : splitSlash (['/'].intercalate parts) = parts := by
  induction parts with
  | nil => exact absurd rfl hne
  | cons p parts ih =>
    obtain ⟨hp, hparts⟩ := List.forall_mem_cons.mp h
    cases parts with
    | nil =>
      rw [List.intercalate_singleton]
      exact splitSlash_of_not_mem hp
    | cons q parts =>
      rw [List.intercalate_cons_cons, List.append_assoc, List.singleton_append,
        splitSlash_append_slash hp, ih (List.cons_ne_nil _ _) hparts]

/-! ## Proper paths -/

/-- **A name of a path**: not empty, not a point, and without a slash. -/
structure IsName (n : String) : Prop where
  nonempty : n ≠ ""
  notPoint : n ≠ "."
  plain : '/' ∉ n.toList

/-- A text of more than two characters is a name if it has no slash, and it does not lead
up then. -/
theorem isName_of_length {n : String} (h : 2 < n.toList.length) (hplain : '/' ∉ n.toList) :
    IsName n ∧ n ≠ ".." := by
  have hne : ∀ s : String, s.toList.length ≤ 2 → n ≠ s := by
    rintro s hs rfl
    omega
  exact ⟨⟨hne "" (by decide), hne "." (by decide), hplain⟩, hne ".." (by decide)⟩

/-- **A proper path**, as a text gives one. -/
structure Proper (p : Path) : Prop where
  root : p.root = "" ∨ p.root = "/" ∨ p.root = "//"
  names : ∀ n ∈ p.names, IsName n

theorem isName_of_mem_namesOf {cs : List Char} {n : String} (h : n ∈ namesOf cs) : IsName n := by
  obtain ⟨p, hp, hpart⟩ := List.mem_filterMap.mp h
  split at hpart
  · cases hpart
  · rename_i hdropped
    obtain rfl := Option.some.inj hpart
    obtain ⟨hnil, hpoint⟩ := not_or.mp hdropped
    refine ⟨fun heq => hnil ?_, fun heq => hpoint ?_, ?_⟩
    · exact String.ofList_eq_empty_iff.mp heq
    · exact String.ofList_injective heq
    · rw [String.toList_ofList]
      exact fun hslash => (mem_of_mem_splitSlash hp hslash).2 rfl

/-- **A path that a text gives is proper.** -/
theorem proper_ofText (s : String) : (ofText s).Proper := by
  refine ⟨?_, fun n hn => ?_⟩
  · unfold ofText
    dsimp only
    split <;> simp
  · rw [names_ofText] at hn
    exact isName_of_mem_namesOf hn

theorem Proper.append {p q : Path} (hp : p.Proper) (hq : q.Proper) : (p ++ q).Proper := by
  show (Path.append p q).Proper
  unfold Path.append
  split
  · exact ⟨hp.root, fun n hn => (List.mem_append.mp hn).elim (hp.names n) (hq.names n)⟩
  · exact hq

theorem IsName.kept {n : String} (h : IsName n) :
    (if n.toList = [] ∨ n.toList = ['.'] then none else some (String.ofList n.toList)) = some n := by
  have hdropped : ¬ (n.toList = [] ∨ n.toList = ['.']) :=
    not_or.mpr ⟨fun heq => h.nonempty (String.toList_eq_nil_iff.mp heq),
      fun heq => h.notPoint (String.toList_injective heq)⟩
  rw [if_neg hdropped, String.ofList_toList]

/-- Names that are put together are found again. -/
theorem namesOf_intercalate {names : List String} (h : ∀ n ∈ names, IsName n) :
    namesOf (['/'].intercalate (names.map String.toList)) = names := by
  cases hnames : names with
  | nil => rfl
  | cons n rest =>
    unfold namesOf
    rw [← hnames, splitSlash_intercalate (by rw [hnames]; exact List.cons_ne_nil _ _)
      (List.forall_mem_map.mpr fun n hn => (h n hn).plain)]
    clear hnames
    induction names with
    | nil => rfl
    | cons n names ih =>
      obtain ⟨hn, hnames⟩ := List.forall_mem_cons.mp h
      rw [List.map_cons, List.filterMap_cons, hn.kept]
      exact congrArg (n :: ·) (ih hnames)

theorem namesOf_slash (cs : List Char) : namesOf ('/' :: cs) = namesOf cs := by
  unfold namesOf
  rw [splitSlash]
  exact List.filterMap_cons_none (if_pos (.inl rfl))

theorem head?_intercalate {names : List String} (h : ∀ n ∈ names, IsName n) :
    (['/'].intercalate (names.map String.toList)).head? ≠ some '/' := by
  cases names with
  | nil => exact fun heq => nomatch heq
  | cons n names =>
    obtain ⟨hnonempty, -, hplain⟩ := h n List.mem_cons_self
    obtain ⟨c, cs, hcs⟩ := List.exists_cons_of_ne_nil (l := n.toList)
      fun heq => hnonempty (String.toList_eq_nil_iff.mp heq)
    have hhead : (['/'].intercalate ((n :: names).map String.toList)).head? = some c := by
      cases names with
      | nil => rw [List.map_singleton, List.intercalate_singleton, hcs, List.head?_cons]
      | cons m names =>
        rw [List.map_cons, List.map_cons, List.intercalate_cons_cons, hcs]
        rfl
    rw [hhead]
    intro heq
    rw [hcs, Option.some.inj heq] at hplain
    exact hplain List.mem_cons_self

/-- The text of a path that is not the path of no names. -/
theorem toList_text {p : Path} (h : ¬ (p.root = "" ∧ p.names = [])) :
    p.text.toList = p.root.toList ++ ['/'].intercalate (p.names.map String.toList) := by
  unfold text
  rw [if_neg h, String.toList_append, String.toList_intercalate]
  rfl

/-- **A proper path is the path of its text.** -/
theorem ofText_text {p : Path} (h : p.Proper) : ofText p.text = p := by
  obtain ⟨root, names⟩ := p
  obtain ⟨hroot, hnames⟩ := h
  by_cases hnone : root = "" ∧ names = []
  · obtain ⟨rfl, rfl⟩ := hnone
    rfl
  have htext := toList_text (p := ⟨root, names⟩) hnone
  have hfound := namesOf_intercalate hnames
  have hhead := head?_intercalate hnames
  dsimp only at htext hroot
  generalize ['/'].intercalate (names.map String.toList) = cs at htext hfound hhead
  unfold ofText
  rw [htext]
  -- what is in front of the names are the slashes of the root, and no others
  obtain rfl | rfl | rfl := hroot
  · rw [show "".toList = [] from rfl, List.nil_append]
    dsimp only
    split
    · exact absurd rfl hhead
    · exact absurd rfl hhead
    · exact absurd rfl hhead
    · rw [hfound]
  · rw [show "/".toList = ['/'] from rfl, List.singleton_append]
    dsimp only
    split
    · rw [namesOf_slash, hfound]
    · rename_i heq
      cases heq
      exact absurd rfl hhead
    · rw [namesOf_slash, hfound]
    · rename_i hother
      exact absurd rfl (hother cs)
  · rw [show "//".toList = ['/', '/'] from rfl, List.cons_append, List.singleton_append]
    dsimp only
    split
    · rename_i heq
      cases heq
      exact absurd rfl hhead
    · rw [namesOf_slash, namesOf_slash, hfound]
    · rename_i hother heq
      cases heq
      exact absurd rfl (hother cs)
    · rename_i hother
      exact absurd rfl (hother ('/' :: cs))

/-- **No scheme is in front of a proper path**: two slashes in a row are not to be
found behind something else. -/
theorem not_prefix_text {p : Path} (h : p.Proper) {scheme : List Char} (hne : scheme ≠ [])
    (hplain : '/' ∉ scheme) : ¬ scheme ++ ['/', '/'] <+: p.text.toList := by
  rintro ⟨rest, hrest⟩
  obtain ⟨c, cs, rfl⟩ := List.exists_cons_of_ne_nil hne
  have hc : c ≠ '/' := fun heq => hplain (heq ▸ List.mem_cons_self)
  by_cases hnone : p.root = "" ∧ p.names = []
  · have hpoint : p.text.toList = ['.'] := by
      unfold text
      rw [if_pos hnone]
      rfl
    rw [hpoint] at hrest
    have hlength := congrArg List.length hrest
    simp at hlength
  rw [toList_text hnone] at hrest
  obtain hroot | hroot | hroot := h.root
  · -- the names would be the scheme, an empty name and others
    rw [hroot] at hrest
    have hnames : p.names.map String.toList ≠ [] := fun heq =>
      hnone ⟨hroot, List.map_eq_nil_iff.mp heq⟩
    have hsplit := splitSlash_intercalate hnames
      (List.forall_mem_map.mpr fun n hn => (h.names n hn).plain)
    rw [show ['/'].intercalate (p.names.map String.toList) = (c :: cs) ++ '/' :: '/' :: rest by
      rw [← List.nil_append (['/'].intercalate _)]
      exact hrest.symm.trans (List.append_assoc _ _ _), splitSlash_append_slash hplain,
      splitSlash] at hsplit
    have hempty : ([] : List Char) ∈ p.names.map String.toList := by
      rw [← hsplit]
      simp
    obtain ⟨n, hn, heq⟩ := List.mem_map.mp hempty
    exact (h.names n hn).nonempty (String.toList_eq_nil_iff.mp heq)
  · rw [hroot] at hrest
    exact hc (List.cons.inj hrest).1
  · rw [hroot] at hrest
    exact hc (List.cons.inj hrest).1

/-! ## A file in a directory -/

theorem ofText_of_isName {n : String} (h : IsName n) : ofText n = ⟨"", [n]⟩ := by
  have hproper : Proper ⟨"", [n]⟩ := ⟨.inl rfl, List.forall_mem_singleton.mpr h⟩
  have htext : text ⟨"", [n]⟩ = n := by
    refine String.toList_injective ?_
    rw [toList_text fun hnone => List.cons_ne_nil n [] hnone.2]
    show ([] : List Char) ++ ['/'].intercalate [n.toList] = n.toList
    rw [List.intercalate_singleton, List.nil_append]
  calc ofText n = ofText (text ⟨"", [n]⟩) := by rw [htext]
    _ = ⟨"", [n]⟩ := ofText_text hproper

/-- **A name below a path** is one more name. -/
theorem append_of_isName (p : Path) {n : String} (h : IsName n) :
    p ++ ofText n = ⟨p.root, p.names ++ [n]⟩ := by
  rw [ofText_of_isName h]
  rfl

end Path

namespace FileSystem

variable {fs : FileSystem}

theorem follow_append_singleton {from_ : Location} {names : List String} {name : String} :
    fs.follow from_ (names ++ [name]) = (fs.follow from_ names).bind (fs.enter · name) := by
  induction names generalizing from_ with
  | nil =>
    rw [List.nil_append, follow, follow]
    show _ = fs.enter from_ name
    cases fs.enter from_ name <;> rfl
  | cons n names ih =>
    rw [List.cons_append, follow, follow]
    cases fs.enter from_ n with
    | error t => rfl
    | ok at_ => exact ih

/-- Where a path starts. -/
def start (p : Path) : Location := if p.root = "" then [] else ["/"]

/-- **A file lies where the path to its directory leads**, under its own name. -/
theorem exists_of_resolve {p : Path} {names : List String} {name : String} {at_ : Location}
    (hnames : p.names = names ++ [name]) (hup : name ≠ "..") (h : fs.resolve p = .ok at_) :
    ∃ from_, fs.follow (start p) names = .ok from_ ∧ fs.node? from_ = some .directory
      ∧ at_ = from_ ++ [name] := by
  unfold resolve at h
  split at h
  · cases h
  split at h
  · cases h
  rw [hnames, show (if p.root = "" then [] else ["/"]) = start p from rfl,
    follow_append_singleton] at h
  cases hfollow : fs.follow (start p) names with
  | error t =>
    rw [hfollow] at h
    cases h
  | ok from_ =>
    rw [hfollow] at h
    change fs.enter from_ name = .ok at_ at h
    unfold enter at h
    split at h
    · cases h
    · cases h
    · rename_i hdirectory
      rw [if_neg hup] at h
      split at h
      · cases h
      · exact ⟨from_, rfl, hdirectory, (Except.ok.inj h).symm⟩

/-- **Different names in one directory are different places.** -/
theorem resolve_ne_of_name_ne {dir : Path} {n m : String} (hn : Path.IsName n) (hm : Path.IsName m)
    (hnUp : n ≠ "..") (hmUp : m ≠ "..") (hne : n ≠ m) {at_ : Location}
    (h : fs.resolve (dir ++ Path.ofText n) = .ok at_) :
    fs.resolve (dir ++ Path.ofText n) ≠ fs.resolve (dir ++ Path.ofText m) := by
  intro heq
  have h' := heq.symm.trans h
  rw [Path.append_of_isName dir hn] at h
  rw [Path.append_of_isName dir hm] at h'
  obtain ⟨from_, -, -, rfl⟩ := exists_of_resolve rfl hnUp h
  obtain ⟨from_', -, -, hplace⟩ := exists_of_resolve rfl hmUp h'
  exact hne (List.singleton_inj.mp (List.append_inj_right' hplace rfl))

end FileSystem

end Covenant
