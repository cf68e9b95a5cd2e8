import Covenant.Contract.Store
import Covenant.Proofs.Files
import Covenant.Proofs.Value.Documents

/-!
# What a written contract holds

There are two ways to what a contract's file holds: `Contract.fileValue` is
the value that a caller gets to see, and `Contract.text` is what is written.
They are made from the same list of units, but the text is a text of documents
and the value may hold what is no document. `fileValue_of_text` is the tie
between them: where there is a text, it is the text of the value's document.

A contract is written only after its text was made, so most failures to write
leave the files as they were; a text without bytes leaves the contract's file
empty (`Spoiled`). A written contract is read as its text under its path
(`write_cases`).
-/

namespace Covenant

namespace Contract

/-! ## The value and the text of a file -/

/-- The parts of a file's document. -/
theorem exists_of_fileDocument {c : Contract} {j : Json} (h : c.fileDocument = .ok j) :
    ∃ name units metadata, c.listed = .ok (name, units)
      ∧ j = .obj [("consumer", c.consumer.document), ("provider", c.provider.document),
        (name, units), ("metadata", metadata)] := by
  unfold fileDocument at h
  cases hlisted : c.listed with
  | error e =>
    rw [hlisted] at h
    cases h
  | ok listed =>
    obtain ⟨name, units⟩ := listed
    rw [hlisted] at h
    dsimp only at h
    split at h
    · cases h
    · exact ⟨name, units, _, rfl, (Except.ok.inj h).symm⟩

/-- Where a file has a document, its value is that document. -/
theorem fileValue_of_fileDocument {c : Contract} {j : Json} (h : c.fileDocument = .ok j) :
    ∃ v, c.fileValue = .ok v ∧ v.strict? = some j := by
  unfold fileDocument at h
  unfold fileValue
  cases hlisted : c.listed with
  | error e =>
    rw [hlisted] at h
    cases h
  | ok listed =>
    obtain ⟨name, units⟩ := listed
    rw [hlisted] at h
    dsimp only at h
    cases hmetadata : (Value.record c.metadata).strict? with
    | none =>
      rw [hmetadata] at h
      cases h
    | some metadata =>
      rw [hmetadata] at h
      cases h
      refine ⟨_, rfl, ?_⟩
      have hfields : Value.strictEntries?
          [(.str "consumer", .ofJson c.consumer.document),
            (.str "provider", .ofJson c.provider.document), (.str name, .ofJson units),
            (.str "metadata", .record c.metadata)]
          = some [("consumer", c.consumer.document), ("provider", c.provider.document),
            (name, units), ("metadata", metadata)] :=
        Value.strictEntries?_cons (Value.strict?_ofJson _)
          (Value.strictEntries?_cons (Value.strict?_ofJson _)
            (Value.strictEntries?_cons (Value.strict?_ofJson _)
              (Value.strictEntries?_cons hmetadata (by rw [Value.strictEntries?]))))
      exact congrArg (Option.map Json.obj) hfields

/-- A contract has a text where its file has a document and every integer in
it has one. -/
theorem text_eq_ok_iff {c : Contract} {t : String} :
    c.text = .ok t ↔ ∃ j, c.fileDocument = .ok j
      ∧ j.integersWithin Json.integerDigitLimit = true ∧ t = j.text .indented ++ "\n" := by
  unfold text
  cases hdocument : c.fileDocument with
  | error e => simp
  | ok j =>
    dsimp only
    by_cases hintegers : j.integersWithin Json.integerDigitLimit = true
    · rw [if_pos hintegers]
      constructor
      · rintro ⟨⟩
        exact ⟨j, rfl, hintegers, rfl⟩
      · rintro ⟨j', hj, -, rfl⟩
        cases hj
        rfl
    · rw [if_neg hintegers]
      constructor
      · rintro ⟨⟩
      · rintro ⟨j', hj, htext, -⟩
        cases hj
        exact absurd htext hintegers

/-- **Where a contract has a text, it is the text of its value.** -/
theorem fileValue_of_text {c : Contract} {t : String} (h : c.text = .ok t) :
    ∃ v j, c.fileValue = .ok v ∧ v.strict? = some j ∧ t = j.text .indented ++ "\n" := by
  obtain ⟨j, hdocument, -, rfl⟩ := text_eq_ok_iff.mp h
  obtain ⟨v, hvalue, hstrict⟩ := fileValue_of_fileDocument hdocument
  exact ⟨v, j, hvalue, hstrict, rfl⟩

/-! ## Writing -/

/-- **A contract whose text has no bytes** was to be written: its file is empty
now, every other file is as it was, and the failure is told as it is. -/
structure Spoiled (c : Contract) (dir : Path) (fs fs' : FileSystem) (e : Failure) : Prop where
  /-- The text has no bytes. -/
  text : ∃ t u, c.text = .ok t ∧ Text.unencodable? fs.halves t = some u
    ∧ e = .file ⟨.unencodable u, (c.pathIn dir).text⟩
  /-- The file is empty. -/
  emptied : FileSystem.Emptied fs fs' (c.pathIn dir)

/-- **Writing a contract goes by steps**: directories are made, and then the text
is written. It fails before a file is touched, or the text has no bytes, or the
text is what the file is replaced with. -/
theorem write_steps (c : Contract) (dir : Path) (fs : FileSystem) :
    (∃ e, (c.write dir fs).1 = .error e ∧ FileSystem.SameFiles fs (c.write dir fs).2.1)
      ∨ (∃ e, (c.write dir fs).1 = .error e ∧ c.Spoiled dir fs (c.write dir fs).2.1 e)
      ∨ ∃ t fs', (c.write dir fs).1 = .ok (c.pathIn dir) ∧ c.text = .ok t
        ∧ Text.unencodable? fs.halves t = none ∧ FileSystem.SameFiles fs fs'
        ∧ fs'.replace (c.pathIn dir) (.text t) = .ok (c.write dir fs).2.1 := by
  -- the directories are made first, and they stay whatever comes after
  have hdirs := FileSystem.sameFiles_makeDirectories fs (c.pathIn dir).parent
  unfold write
  dsimp only
  cases hmade : fs.makeDirectories (c.pathIn dir).parent with
  | mk outcome fs' =>
    rw [hmade] at hdirs
    cases outcome with
    | error e => exact .inl ⟨_, rfl, hdirs⟩
    | ok u =>
      dsimp only
      cases htext : c.text with
      | error e => exact .inl ⟨_, rfl, hdirs⟩
      | ok t =>
        dsimp only
        obtain ⟨e, hwrite⟩ | ⟨u, fs'', hnone, hreplace, hwrite⟩ | ⟨fs'', hbytes, hreplace, hwrite⟩ :=
          fs'.write_cases (c.pathIn dir) t
        · rw [hwrite]
          exact .inl ⟨_, rfl, hdirs⟩
        · rw [hwrite]
          rw [hdirs.halves] at hnone
          exact .inr (.inl ⟨_, rfl, ⟨t, u, htext, hnone, rfl⟩,
            hdirs.emptied (FileSystem.emptied_of_replace hreplace)⟩)
        · rw [hwrite]
          rw [hdirs.halves] at hbytes
          exact .inr (.inr ⟨t, fs', rfl, rfl, hbytes, hdirs, hreplace⟩)

/-- **Writing a contract** has three outcomes. It fails, and the files are the
same files as before; or its text has no bytes, and its file is empty; or the
contract has a text that is then read under its path. -/
theorem write_cases (c : Contract) (dir : Path) (fs : FileSystem) :
    (∃ e, (c.write dir fs).1 = .error e ∧ FileSystem.SameFiles fs (c.write dir fs).2.1)
      ∨ (∃ e, (c.write dir fs).1 = .error e ∧ c.Spoiled dir fs (c.write dir fs).2.1 e)
      ∨ ∃ t, (c.write dir fs).1 = .ok (c.pathIn dir) ∧ c.text = .ok t
        ∧ Text.unencodable? fs.halves t = none
        ∧ (c.write dir fs).2.1.contents (c.pathIn dir) = .ok (.text t) := by
  obtain hfailed | hspoiled | ⟨t, fs', hdone, htext, hbytes, -, hreplace⟩ :=
    write_steps c dir fs
  · exact .inl hfailed
  · exact .inr (.inl hspoiled)
  · exact .inr (.inr ⟨t, hdone, htext, hbytes, FileSystem.contents_of_replace hreplace⟩)

/-- **A contract whose text has no bytes** is lost, if nothing else is in the way. -/
theorem write_of_unencodable {c : Contract} {dir : Path} {fs fs' fs'' : FileSystem} {t : String}
    {u : Text.Unencodable} (hmade : fs.makeDirectories (c.pathIn dir).parent = (.ok (), fs'))
    (htext : c.text = .ok t)
    (hpath : Text.unencodable? fs'.halves.inPaths (c.pathIn dir).text = none)
    (hnone : Text.unencodable? fs'.halves t = some u)
    (hreplace : fs'.replace (c.pathIn dir) (.text "") = .ok fs'') :
    c.write dir fs = (.error (.file ⟨.unencodable u, (c.pathIn dir).text⟩), fs'', []) := by
  unfold write
  dsimp only
  rw [hmade]
  dsimp only
  rw [htext]
  dsimp only
  rw [FileSystem.write_of_unencodable hpath hnone hreplace]
  rfl

/-- **A contract that was written** has its own path, and a text that is read under
it. -/
theorem written_of_write {c : Contract} {dir p : Path} {fs : FileSystem}
    (h : (c.write dir fs).1 = .ok p) :
    p = c.pathIn dir ∧ ∃ t, c.text = .ok t
      ∧ (c.write dir fs).2.1.contents (c.pathIn dir) = .ok (.text t) := by
  obtain ⟨e, hfailed, -⟩ | ⟨e, hfailed, -⟩ | ⟨t, hdone, htext, -, hcontents⟩ :=
    write_cases c dir fs
  · exact nomatch h.symm.trans hfailed
  · exact nomatch h.symm.trans hfailed
  · exact ⟨Except.ok.inj (h.symm.trans hdone), t, htext, hcontents⟩

/-- **What writing a contract leaves alone**, whatever comes of it: directories stay,
and every file reads as before whose path does not lead to the contract's. -/
theorem write_frame (c : Contract) (dir : Path) (fs : FileSystem) :
    FileSystem.KeepsDirectories fs (c.write dir fs).2.1
      ∧ ∀ q x, fs.contents q = .ok x
        → (c.write dir fs).2.1.resolve q ≠ (c.write dir fs).2.1.resolve (c.pathIn dir)
        → (c.write dir fs).2.1.contents q = .ok x := by
  obtain ⟨e, -, hsame⟩ | ⟨e, -, hspoiled⟩ | ⟨t, fs', -, -, -, hdirs, hreplace⟩ :=
    write_steps c dir fs
  · exact ⟨hsame.directories, fun q x hq _ => hsame.contents hq⟩
  · exact ⟨hspoiled.emptied.directories, fun q x => hspoiled.emptied.contents_of_ne⟩
  · refine ⟨fun at_ hat => ?_, fun q x hq hne => ?_⟩
    · exact FileSystem.keepsDirectories_of_replace hreplace at_ (hdirs.directories at_ hat)
    · exact FileSystem.contents_of_replace_of_ne hreplace (hdirs.contents hq) hne

end Contract

end Covenant
