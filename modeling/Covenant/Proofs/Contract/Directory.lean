import Covenant.Proofs.Contract.ExactForm
import Covenant.Proofs.Json.Characters
import Covenant.Proofs.Place
import Covenant.Proofs.Text.Utf8

/-!
# Several contracts in one directory

A contract's file is named after its consumer and its provider, with a hyphen in
between. Writing another contract into the same directory leaves the file alone
if the other file has another name (`Contract.load_after_write`): the path that
the first write gave back leads to what it led to before, since a path is all in
its text (`Path.ofText_text`) and a text names one place in a directory
(`FileSystem.resolve_ne_of_name_ne`).

The name of the file does not tell where the hyphen in the middle is. Two pairs of
names that have hyphens themselves may share one file, and then the contract that
is written last is the one that is loaded (`Contract.same_file`).
-/

namespace Covenant

open Validation

namespace Contract

variable {fs : FileSystem} {c c' : Contract}

/-! ## Where a contract is -/

/-- **Names without slashes**, as a file name needs them. -/
structure PlainNames (c : Contract) : Prop where
  consumer : '/' ∉ c.consumer.name.toList
  provider : '/' ∉ c.provider.name.toList

/-- **The name of a contract's file is a name**, and does not lead up. -/
theorem PlainNames.fileName (h : c.PlainNames) : Path.IsName c.fileName ∧ c.fileName ≠ ".." := by
  refine Path.isName_of_length ?_ fun hmem => ?_
  · unfold Contract.fileName
    simp only [String.toList_append, List.length_append]
    rw [show ".json".toList.length = 5 from rfl]
    omega
  · unfold Contract.fileName at hmem
    simp only [String.toList_append, List.mem_append] at hmem
    obtain ((hmem | hmem) | hmem) | hmem := hmem
    · exact h.consumer hmem
    · exact absurd hmem (by decide)
    · exact h.provider hmem
    · exact absurd hmem (by decide)

theorem proper_pathIn (c : Contract) (dir : String) : (c.pathIn (.ofText dir)).Proper :=
  (Path.proper_ofText dir).append (Path.proper_ofText c.fileName)

/-- **Files of other names are in other places.** -/
theorem resolve_pathIn_ne (h : c.PlainNames) (h' : c'.PlainNames) (hne : c.fileName ≠ c'.fileName)
    {dir : Path} {at_ : Location} (hplace : fs.resolve (c.pathIn dir) = .ok at_) :
    fs.resolve (c.pathIn dir) ≠ fs.resolve (c'.pathIn dir) :=
  FileSystem.resolve_ne_of_name_ne h.fileName.1 h'.fileName.1 h.fileName.2 h'.fileName.2 hne hplace

/-! ## Loading from a path -/

theorem isUrl_text {p : Path} (h : p.Proper) : isUrl p.text = false := by
  have hscheme : ∀ scheme : List Char, scheme ≠ [] → '/' ∉ scheme →
      (scheme ++ ['/', '/']).isPrefixOf p.text.toList = false := fun scheme hne hplain =>
    Bool.eq_false_iff.mpr fun hprefix =>
      Path.not_prefix_text h hne hplain (List.isPrefixOf_iff_prefix.mp hprefix)
  unfold isUrl
  rw [show "http://".toList = "http:".toList ++ ['/', '/'] from rfl,
    show "https://".toList = "https:".toList ++ ['/', '/'] from rfl,
    hscheme _ (by decide) (by decide), hscheme _ (by decide) (by decide)]
  rfl

/-- **The text of a proper path leads to the path.** -/
theorem filePath_text {p : Path} (h : p.Proper) : filePath p.text = p := by
  have hscheme : "file://".toList.isPrefixOf p.text.toList = false :=
    Bool.eq_false_iff.mpr fun hprefix => Path.not_prefix_text h
      (show "file:".toList ≠ [] by decide) (by decide) (List.isPrefixOf_iff_prefix.mp hprefix)
  unfold filePath
  dsimp only
  rw [hscheme, if_neg Bool.false_ne_true, String.ofList_toList]
  exact Path.ofText_text h

/-- What is loaded from a path is what its file holds. -/
theorem load_text_congr {p : Path} (h : p.Proper) {fs fs' : FileSystem}
    (hcontents : fs'.contents p = fs.contents p) (web : Web) :
    load p.text fs' web = load p.text fs web := by
  unfold load
  rw [isUrl_text h, if_neg Bool.false_ne_true, if_neg Bool.false_ne_true, filePath_text h]
  unfold readText
  rw [hcontents]

/-- **Loading a document's text from its file** reads the text. -/
theorem load_text_of_contents {p : Path} (h : p.Proper) {j : Json} (hexact : j.Exact)
    (hcontents : fs.contents p = .ok (.text (j.text .indented ++ "\n"))) (web : Web) :
    load p.text fs web = (parse (j.text .indented ++ "\n") p.text, []) := by
  have hreturn : '\r' ∉ (j.text .indented ++ "\n").toList := by
    rw [String.toList_append]
    intro hmem
    obtain hmem | hmem := List.mem_append.mp hmem
    · exact Json.forall_mem_text Json.writes_indented hexact '\r' hmem rfl
    · exact absurd hmem (by decide)
  have hread : Contents.read (.text (j.text .indented ++ "\n")) = .ok (j.text .indented ++ "\n") := by
    unfold Contents.read
    dsimp only
    rw [Text.unifyLineBreaks_of_not_mem hreturn, String.ofList_toList]
  unfold load
  rw [isUrl_text h, if_neg Bool.false_ne_true, filePath_text h]
  unfold readText
  rw [hcontents]
  dsimp only
  rw [hread]

/-! ## What is loaded -/

/-- The list of a file is that of the interactions, unless there are none. -/
theorem interactions_of_listed {name : String} {units : Json} (h : c.listed = .ok (name, units)) :
    name = "messages" ∧ c.interactions = []
      ∨ name = "interactions" ∧ ∃ js, Model.documents c.interactions = .ok js
        ∧ units = (Json.arr js).merged := by
  unfold listed at h
  split at h
  · rename_i hmessages
    obtain ⟨js, -, hnamed⟩ := exists_of_map_eq_ok h
    cases hnamed
    exact .inl ⟨rfl, List.isEmpty_iff.mp (Bool.and_eq_true_iff.mp hmessages).1⟩
  · obtain ⟨js, hjs, hnamed⟩ := exists_of_map_eq_ok h
    cases hnamed
    exact .inr ⟨rfl, js, hjs, rfl⟩

/-- Contracts that list the same have the same documents of interactions, if these are
exact: merging leaves them alone then. -/
theorem documents_eq_of_listed {c' : Contract} {name : String} {units : Json}
    (hexact : ∀ js, Model.documents c.interactions = .ok js → (Json.arr js).Exact)
    (hexact' : ∀ js, Model.documents c'.interactions = .ok js → (Json.arr js).Exact)
    (h : c.listed = .ok (name, units)) (h' : c'.listed = .ok (name, units)) :
    Model.documents c'.interactions = Model.documents c.interactions := by
  obtain ⟨hname, hnone⟩ | ⟨hname, js, hjs, hunits⟩ := interactions_of_listed h
  · obtain ⟨-, hnone'⟩ | ⟨hname', -⟩ := interactions_of_listed h'
    · rw [hnone, hnone']
    · exact absurd (hname.symm.trans hname') (by decide)
  · obtain ⟨hname', -⟩ | ⟨-, js', hjs', hunits'⟩ := interactions_of_listed h'
    · exact absurd (hname.symm.trans hname') (by decide)
    · rw [Json.merged_of_exact _ (hexact js hjs)] at hunits
      rw [Json.merged_of_exact _ (hexact' js' hjs')] at hunits'
      rw [hjs, hjs', Json.arr.inj (hunits'.symm.trans hunits)]

/-- **What a regular contract's document is read as**: a contract of the same names,
whose interactions have the same documents. -/
theorem exists_check_of_regular (h : c.Regular) {j : Json} (hdocument : c.fileDocument = .ok j)
    (hdepth : j.depth ≤ Json.depthLimit) :
    ∃ loaded, j.Exact ∧ check (.ofJson j) = .passed loaded ∧ loaded.consumer = c.consumer
      ∧ loaded.provider = c.provider
      ∧ Model.documents loaded.interactions = Model.documents c.interactions := by
  obtain ⟨loaded, hexact, hloaded, hopened⟩ := exists_exactForm h hdocument
  have hlevels : (Model.opened loaded).depth < Value.levelLimit :=
    Nat.lt_of_le_of_lt (Nat.le_trans hopened hdepth) (by decide)
  obtain ⟨j', hj', hexactDocument, -, hcheck⟩ := exists_fileDocument hexact hlevels
  obtain rfl := Except.ok.inj (hloaded.symm.trans hj')
  obtain ⟨name, units, metadata, hlisted, heq⟩ := exists_of_fileDocument hdocument
  obtain ⟨name', units', metadata', hlisted', heq'⟩ := exists_of_fileDocument hloaded
  rw [heq] at heq'
  simp only [Json.obj.injEq, List.cons.injEq, Prod.mk.injEq, true_and, and_true,
    Participant.document, Json.str.injEq] at heq'
  obtain ⟨hconsumer, hprovider, ⟨rfl, rfl⟩, -⟩ := heq'
  refine ⟨loaded, hexactDocument, hcheck, ?_, ?_, ?_⟩
  · exact congrArg Participant.mk hconsumer.symm
  · exact congrArg Participant.mk hprovider.symm
  · refine documents_eq_of_listed (fun js hjs => ?_) (fun js hjs => ?_) hlisted hlisted'
    · obtain ⟨-, -, -, -, hexacts, -⟩ := exists_exactForm_documents
        (fun i hi j => Interaction.exists_exactForm (h.interactions i hi)) hjs
      exact hexacts
    · have hunits : ∀ i ∈ loaded.interactions, (Model.opened i).depth < Value.levelLimit →
          RoundTrips Model.document Model.check (Model.opened i).depth i := fun i hi =>
        Interaction.roundTrips (hexact.interactions i hi)
      obtain ⟨js', hjs', hexacts, -, -⟩ := roundTrips_documents hunits
        (Nat.lt_trans (depth_lists_lt loaded).1 hlevels)
      obtain rfl := Except.ok.inj (hjs.symm.trans hjs')
      exact hexacts

/-- **Loading a regular contract from its file.** -/
theorem load_of_regular (h : c.Regular) {p : Path} (hp : p.Proper) {t : String}
    (htext : c.text = .ok t) (hdepth : ∀ j, c.fileDocument = .ok j → j.depth ≤ Json.depthLimit)
    (hcontents : fs.contents p = .ok (.text t)) (web : Web) :
    ∃ loaded, load p.text fs web = (.ok loaded, []) ∧ loaded.consumer = c.consumer
      ∧ loaded.provider = c.provider
      ∧ Model.documents loaded.interactions = Model.documents c.interactions := by
  obtain ⟨j, hdocument, hintegers, rfl⟩ := text_eq_ok_iff.mp htext
  obtain ⟨loaded, hexact, hcheck, hsame⟩ := exists_check_of_regular h hdocument (hdepth j hdocument)
  refine ⟨loaded, ?_, hsame⟩
  rw [load_text_of_contents hp hexact hcontents,
    parse_of_check hexact hintegers (hdepth j hdocument) hcheck]

/-- **Loading an exact contract from its file** gives the contract. -/
theorem load_of_exact (h : c.Exact) {p : Path} (hp : p.Proper) {t : String}
    (htext : c.text = .ok t) (hdepth : (Model.opened c).depth ≤ Json.depthLimit)
    (hcontents : fs.contents p = .ok (.text t)) (web : Web) :
    load p.text fs web = (.ok c, []) := by
  obtain ⟨j, hdocument, hintegers, rfl⟩ := text_eq_ok_iff.mp htext
  obtain ⟨j', hj', hexact, heq, hcheck⟩ := exists_fileDocument h (Nat.lt_of_le_of_lt hdepth (by decide))
  obtain rfl := Except.ok.inj (hdocument.symm.trans hj')
  rw [load_text_of_contents hp hexact hcontents,
    parse_of_check hexact hintegers (heq ▸ hdepth) hcheck]

/-! ## Writing another contract -/

/-- **A file stays** where another contract is written, whatever comes of it, if that
contract's file has another name. -/
theorem contents_after_write (h : c.PlainNames) (h' : c'.PlainNames)
    (hne : c.fileName ≠ c'.fileName) {dir : Path} {x : Contents}
    (hcontents : fs.contents (c.pathIn dir) = .ok x) :
    (c'.write dir fs).2.1.contents (c.pathIn dir) = .ok x := by
  obtain ⟨hkeeps, hframe⟩ := c'.write_frame dir fs
  obtain ⟨at_, hplace, -⟩ := FileSystem.contents_eq_ok_iff.mp hcontents
  exact hframe _ _ hcontents
    (resolve_pathIn_ne h h' hne (FileSystem.resolve_of_keepsDirectories hkeeps hplace))

/-- **What becomes of a contract when another one is written into its directory.** The
first contract was written, and its path was given back. If the name of the other
contract's file is another one, loading from the path gives what it gave before,
whatever comes of the other write: the first contract itself if it is exact, and
for any regular contract one with the same consumer and provider, and interactions
with the same documents. If the files have the same name and the other contract
was written, it is the other contract that is loaded. -/
theorem load_after_write (dir : String) {p : Path} (hplain : c.PlainNames)
    (hplain' : c'.PlainNames) (hwrite : (c.write (.ofText dir) fs).1 = .ok p) (web : Web) :
    (c.fileName ≠ c'.fileName →
      load p.text (c'.write (.ofText dir) (c.write (.ofText dir) fs).2.1).2.1 web
          = load p.text (c.write (.ofText dir) fs).2.1 web
        ∧ (c.Exact → (Model.opened c).depth ≤ Json.depthLimit →
          load p.text (c'.write (.ofText dir) (c.write (.ofText dir) fs).2.1).2.1 web = (.ok c, []))
        ∧ (c.Regular → (∀ j, c.fileDocument = .ok j → j.depth ≤ Json.depthLimit) → ∃ loaded,
          load p.text (c'.write (.ofText dir) (c.write (.ofText dir) fs).2.1).2.1 web
            = (.ok loaded, []) ∧ loaded.consumer = c.consumer ∧ loaded.provider = c.provider
            ∧ Model.documents loaded.interactions = Model.documents c.interactions))
      ∧ (c.fileName = c'.fileName → ∀ p',
        (c'.write (.ofText dir) (c.write (.ofText dir) fs).2.1).1 = .ok p' →
        p' = p ∧ (c'.Exact → (Model.opened c').depth ≤ Json.depthLimit →
          load p.text (c'.write (.ofText dir) (c.write (.ofText dir) fs).2.1).2.1 web
            = (.ok c', []))) := by
  obtain ⟨rfl, t, htext, hcontents⟩ := written_of_write hwrite
  have hproper := c.proper_pathIn dir
  refine ⟨fun hne => ?_, fun heq p' hwrite' => ?_⟩
  · have hafter := contents_after_write hplain hplain' hne hcontents
    exact ⟨load_text_congr hproper (hafter.trans hcontents.symm) web,
      fun hexact hdepth => load_of_exact hexact hproper htext hdepth hafter web,
      fun hregular hdepth => load_of_regular hregular hproper htext hdepth hafter web⟩
  · obtain ⟨rfl, t', htext', hcontents'⟩ := written_of_write hwrite'
    have hshared : c'.pathIn (.ofText dir) = c.pathIn (.ofText dir) := by
      unfold pathIn
      rw [heq]
    rw [hshared] at hcontents'
    exact ⟨hshared, fun hexact hdepth => load_of_exact hexact hproper htext' hdepth hcontents' web⟩

/-- A contract with one interaction, of which only the description is of interest. -/
def between (consumer provider description : String) : Contract :=
  .ofInteractions consumer provider [⟨description, [], .default, .default⟩] (.str "3.0.0")
    installedVersion

theorem exact_between (consumer provider description : String) :
    (between consumer provider description).Exact where
  one := .inr rfl
  interactions := List.forall_mem_singleton.mpr
    { providerStates := fun s hs => nomatch hs
      request :=
        { path := trivial
          query := fun fs hfs => nomatch hfs
          headers := fun fs hfs => nomatch hfs }
      response := fun fs hfs => nomatch hfs }
  messages m hm := nomatch hm
  metadata :=
    { nodup := (by decide : ["pactSpecification", distribution].Nodup)
      values := by
        have hversion : ∀ s, (Value.record [("version", .str s)]).Exact := fun s =>
          ⟨.obj [("version", .str s)],
            ⟨List.nodup_cons.mpr ⟨List.not_mem_nil, List.nodup_nil⟩, trivial, trivial⟩, rfl⟩
        exact List.forall_mem_cons.mpr
          ⟨hversion "3.0.0", List.forall_mem_singleton.mpr (hversion installedVersion)⟩ }

/-- What was written has its path. -/
theorem eq_pathIn_of_write (c : Contract) (dir : Path) (fs : FileSystem)
    (h : (c.write dir fs).1.toBool = true) : (c.write dir fs).1 = .ok (c.pathIn dir) := by
  cases hwrite : (c.write dir fs).1 with
  | error e =>
    rw [hwrite] at h
    cases h
  | ok p => rw [(written_of_write hwrite).1]

/-- A contract of the shop with the stock is still loaded when one with the bank has
been written. -/
theorem load_after_write_bank :
    (between "shop" "stock" "an item").PlainNames ∧ (between "shop" "bank" "a payment").PlainNames
      ∧ ∃ p, ((between "shop" "stock" "an item").write (.ofText "pacts") .empty).1 = .ok p
        ∧ load p.text ((between "shop" "bank" "a payment").write (.ofText "pacts")
            ((between "shop" "stock" "an item").write (.ofText "pacts") .empty).2.1).2.1 []
          = (.ok (between "shop" "stock" "an item"), []) := by
  have hplain : (between "shop" "stock" "an item").PlainNames := ⟨by decide, by decide⟩
  have hplain' : (between "shop" "bank" "a payment").PlainNames := ⟨by decide, by decide⟩
  have hwrite := eq_pathIn_of_write (between "shop" "stock" "an item") (.ofText "pacts") .empty
    (by decide +kernel)
  obtain ⟨hkept, -⟩ := load_after_write "pacts" hplain hplain' hwrite []
  obtain ⟨-, hexact, -⟩ := hkept (by decide)
  exact ⟨hplain, hplain', _, hwrite, hexact (exact_between _ _ _) (by decide +kernel)⟩

/-- **A contract that is lost.** The contracts of two different pairs of names are
written, both writes go well, and there is one file: the path of the first contract
is that of the second one too, and the second one is loaded from it. -/
theorem same_file :
    (("a-b", "c") : String × String) ≠ ("a", "b-c")
      ∧ (between "a-b" "c" "an item").PlainNames ∧ (between "a" "b-c" "a payment").PlainNames
      ∧ ∃ p, ((between "a-b" "c" "an item").write (.ofText "pacts") .empty).1 = .ok p
        ∧ load p.text ((between "a-b" "c" "an item").write (.ofText "pacts") .empty).2.1 []
          = (.ok (between "a-b" "c" "an item"), [])
        ∧ ((between "a" "b-c" "a payment").write (.ofText "pacts")
            ((between "a-b" "c" "an item").write (.ofText "pacts") .empty).2.1).1 = .ok p
        ∧ load p.text ((between "a" "b-c" "a payment").write (.ofText "pacts")
            ((between "a-b" "c" "an item").write (.ofText "pacts") .empty).2.1).2.1 []
          = (.ok (between "a" "b-c" "a payment"), [])
        ∧ (between "a" "b-c" "a payment").consumer ≠ (between "a-b" "c" "an item").consumer
        ∧ (between "a" "b-c" "a payment").provider ≠ (between "a-b" "c" "an item").provider
        ∧ (between "a" "b-c" "a payment").interactions ≠ (between "a-b" "c" "an item").interactions := by
  have hwrite := eq_pathIn_of_write (between "a-b" "c" "an item") (.ofText "pacts") .empty
    (by decide +kernel)
  have hwrite' := eq_pathIn_of_write (between "a" "b-c" "a payment") (.ofText "pacts")
    ((between "a-b" "c" "an item").write (.ofText "pacts") .empty).2.1 (by decide +kernel)
  obtain ⟨-, t, htext, hcontents⟩ := written_of_write hwrite
  obtain ⟨-, t', htext', hcontents'⟩ := written_of_write hwrite'
  refine ⟨by decide, ⟨by decide, by decide⟩, ⟨by decide, by decide⟩, _, hwrite, ?_, hwrite', ?_,
    by decide, by decide, fun heq => ?_⟩
  · exact load_of_exact (exact_between _ _ _) (proper_pathIn _ _) htext (by decide +kernel)
      hcontents []
  · exact load_of_exact (exact_between _ _ _) (proper_pathIn (between "a" "b-c" "a payment") _) htext'
      (by decide +kernel) hcontents' []
  · exact absurd (congrArg (fun is => is.map Interaction.description) heq) (by decide)

end Contract

end Covenant
