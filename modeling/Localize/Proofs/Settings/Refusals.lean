import Localize.Proofs.Settings.Fields
import Localize.Proofs.Settings.Precedence
import Localize.Proofs.Yaml.Script

/-!
# Why settings are not loaded

Whoever asks for settings has to expect that there are none (`LoadError.isExpected`), but not of
every cause.  Which causes these are is a matter of the file, and of the room there is for reading
it: variables and options can make settings invalid, which is expected, and no more than that.  What
nobody expects is a file that breaks the loading (`Breaks`): a directory in its place, a text that is
no document, things that stand too deep inside one another, and a document with a key at the top that
is no text (`isExpected_eq_false_iff`).

The file is read while it is parsed.  A text that breaks the grammar breaks the loading even if the
bytes of a later piece are no text, which would be expected, since nobody has read them by then.  A
file with nothing wrong in its bytes is read as its text, however it falls into pieces, and whatever
its ends of lines are (`documentIn_of_unifyLineEnds_eq`).
-/

set_option autoImplicit false

namespace Localize
namespace Settings

variable {room : Nat} {tree : Tree} {path : Path} {doc base upper : Document} {env : Environment}
variable {options : Options} {cause : LoadError}

/-- What is at a path breaks the loading of settings by a parser that can make so many calls inside
one another. -/
inductive Breaks (room : Nat) (tree : Tree) (path : Path) : Prop
  /-- The system does not say what is there, as the path is too long. -/
  | unanswered {e : FileError} (h : tree.isPresent path = .error e)
  | directory (h : tree.status path = .ok .directory)
  /-- The text breaks the grammar as far as it is read.  Behind that may be anything, bytes that are
  no text included. -/
  | malformed {bytes : Bytes} (hfile : tree.status path = .ok (.file bytes))
      (hread : Yaml.read room (.ofFile bytes) = .error .malformed)
  /-- Things stand inside one another, and deeper than the parser can follow. -/
  | deep {bytes : Bytes} (hfile : tree.status path = .ok (.file bytes))
      (hread : Yaml.read room (.ofFile bytes) = .error .deep)
  /-- A scalar means nothing, and not merely because its value is out of its range. -/
  | nonsense {bytes : Bytes} {n : Yaml.Nonsense} (hfile : tree.status path = .ok (.file bytes))
      (hread : Yaml.read room (.ofFile bytes) = .error (.nonsense n)) (hn : n.isBadValue = false)
  | key {bytes : Bytes} {value : Value} {doc : Document} {e : Value × Value}
      (hfile : tree.status path = .ok (.file bytes))
      (hread : Yaml.read room (.ofFile bytes) = .ok value)
      (hentries : value.entries? = some doc) (he : e ∈ doc) (hkey : isTextKey e.1 = false)

/-! ## Keys at the top -/

/-- What is laid over a document brings no key that is no text. -/
theorem all_isTextKey_merge (h : Named upper) (base : Document) :
    ((merge base upper).all fun (key, _) => isTextKey key)
      = base.all fun (key, _) => isTextKey key := by
  induction upper generalizing base with
  | nil => rw [merge]
  | cons e upper ih =>
    obtain ⟨k, v⟩ := e
    obtain ⟨name, rfl⟩ := h.texts _ List.mem_cons_self
    rw [merge, ih ⟨fun key hkey => h.texts key (List.mem_cons_of_mem _ hkey),
      (List.nodup_cons.1 h.nodup).2⟩, all_isTextKey_put]

theorem not_all_isTextKey {e : Value × Value} (he : e ∈ doc) (hkey : isTextKey e.1 = false) :
    (doc.all fun (key, _) => isTextKey key) = false :=
  List.all_eq_false.2 ⟨e, he, Bool.eq_false_iff.1 hkey⟩

/-- Settings of a document whose keys are texts are invalid at most. -/
theorem isExpected_of_ofDocument (h : ofDocument doc = .error cause) :
    cause.isExpected = doc.all fun (key, _) => isTextKey key := by
  rw [ofDocument] at h
  split at h
  · rename_i hall
    rw [hall]
    cases hread : read doc with
    | error es =>
      rw [hread] at h
      cases h
      rfl
    | ok s =>
      rw [hread] at h
      cases h
  · rename_i hall
    cases h
    exact (Bool.eq_false_iff.2 hall).symm

/-! ## The document in a file -/

/-- Where nothing is, there is no document; that this is so may be past finding out. -/
theorem readDocument_of_status_error {c : FileCause} (h : tree.status path = .error c) :
    (∃ e, tree.isPresent path = .error e ∧ (LoadError.unreadable e).isExpected = false ∧
        readDocument room tree (some path) = .error (.unreadable e)) ∨
      tree.isPresent path = .ok false ∧
        readDocument room tree (some path) = .error (.missing path) := by
  have hpresent : (∃ e, tree.isPresent path = .error e ∧ (LoadError.unreadable e).isExpected = false)
      ∨ tree.isPresent path = .ok false := by
    rw [Tree.isPresent, Tree.test, h]
    cases c <;> first | exact Or.inr rfl | exact Or.inl ⟨_, rfl, rfl⟩
  refine hpresent.imp ?_ fun habsent => ⟨habsent, ?_⟩
  · rintro ⟨e, he, hexpected⟩
    refine ⟨e, he, hexpected, ?_⟩
    rw [readDocument, he]
    rfl
  · rw [readDocument, habsent]
    rfl

theorem readDocument_of_directory (h : tree.status path = .ok .directory) :
    readDocument room tree (some path) = .error (.unreadable ⟨.isDirectory, path.toText⟩) := by
  rw [readDocument, Tree.isPresent, Tree.test, Tree.readFile, h]
  rfl

theorem readDocument_of_file {bytes : Bytes} (h : tree.status path = .ok (.file bytes)) :
    readDocument room tree (some path) = documentIn room path bytes := by
  rw [readDocument, Tree.isPresent, Tree.test, Tree.readFile, h]
  -- what is done with the bytes does not matter, and must not be unfolded
  generalize documentIn room path = document
  rfl

/-- What is read of a file. -/
theorem documentIn_eq (room : Nat) (path : Path) (bytes : Bytes) :
    documentIn room path bytes =
      match Yaml.read room (.ofFile bytes) with
      | .error fault => .error (.unread fault)
      | .ok value =>
        if !value.truthy then .ok []
        else
          match value.entries? with
          | some doc => .ok doc
          | none => .error (.notMapping path) := by
  rw [documentIn]
  cases Yaml.read room (.ofFile bytes) <;> rfl

/-- **Ends of lines make no difference** to what is read of a file that is a text. -/
theorem documentIn_of_unifyLineEnds_eq {bytes bytes' : Bytes} {t t' : Text}
    (h : Utf8.decode bytes = .ok t) (h' : Utf8.decode bytes' = .ok t')
    (hallowed : t.all Yaml.isAllowed = true)
    (hlines : Charset.unifyLineEnds t = Charset.unifyLineEnds t') (room : Nat) (path : Path) :
    documentIn room path bytes = documentIn room path bytes' := by
  have hallowed' : t'.all Yaml.isAllowed = true := by
    rw [← Yaml.all_isAllowed_unifyLineEnds, ← hlines, Yaml.all_isAllowed_unifyLineEnds, hallowed]
  have hscript : Yaml.Script.ofFile bytes = Yaml.Script.ofFile bytes' :=
    (Yaml.Script.ofFile_eq_iff.2 ⟨t, h, hallowed, rfl⟩).trans
      (Yaml.Script.ofFile_eq_iff.2 ⟨t', h', hallowed', hlines⟩).symm
  rw [documentIn, documentIn, hscript]

theorem readDocument_of_fault {bytes : Bytes} {fault : Yaml.Fault}
    (h : tree.status path = .ok (.file bytes))
    (hread : Yaml.read room (.ofFile bytes) = .error fault) :
    readDocument room tree (some path) = .error (.unread fault) := by
  rw [readDocument_of_file h, documentIn_eq, hread]

/-- A value with something in it counts as given. -/
theorem truthy_of_mem {value : Value} {e : Value × Value} (h : value.entries? = some doc)
    (he : e ∈ doc) : value.truthy = true := by
  cases value with
  | map entries =>
    cases h
    cases doc with
    | nil => cases he
    | cons _ _ => rfl
  | loop id whole => rfl
  | _ => cases h

/-- Trouble with a file that nobody expects comes of a file that breaks the loading. -/
theorem breaks_of_readDocument (h : readDocument room tree (some path) = .error cause)
    (hcause : cause.isExpected = false) : Breaks room tree path := by
  cases hstatus : tree.status path with
  | error c =>
    rcases readDocument_of_status_error hstatus with ⟨e, he, -⟩ | ⟨-, hmissing⟩
    · exact .unanswered he
    · rw [hmissing] at h
      cases h
      cases hcause
  | ok entry =>
    cases entry with
    | directory => exact .directory hstatus
    | file bytes =>
      rw [readDocument_of_file hstatus, documentIn_eq] at h
      split at h
      · rename_i fault hread
        cases h
        cases fault with
        | malformed => exact .malformed hstatus hread
        | nonsense n => exact .nonsense hstatus hread hcause
        | undecodable => cases hcause
        | deep => exact .deep hstatus hread
      · split at h
        · cases h
        · split at h <;> cases h
          cases hcause

/-- A key that is no text breaks the loading, wherever the document comes from. -/
theorem breaks_of_key {e : Value × Value} (h : readDocument room tree (some path) = .ok doc)
    (he : e ∈ doc) (hkey : isTextKey e.1 = false) : Breaks room tree path := by
  cases hstatus : tree.status path with
  | error c =>
    rcases readDocument_of_status_error hstatus with ⟨_, -, -, herr⟩ | ⟨-, herr⟩ <;>
      rw [herr] at h <;> cases h
  | ok entry =>
    cases entry with
    | directory =>
      rw [readDocument_of_directory hstatus] at h
      cases h
    | file bytes =>
      rw [readDocument_of_file hstatus, documentIn_eq] at h
      split at h
      · cases h
      · rename_i value hread
        split at h
        · cases h
          cases he
        · split at h <;> cases h
          rename_i hentries
          exact .key hstatus hread hentries he hkey

/-- A file that breaks the loading gives trouble that nobody expects, or a document with a key that
is no text. -/
theorem readDocument_of_breaks (h : Breaks room tree path) :
    (∃ cause, readDocument room tree (some path) = .error cause ∧ cause.isExpected = false) ∨
      ∃ doc, readDocument room tree (some path) = .ok doc ∧
        (doc.all fun (key, _) => isTextKey key) = false := by
  cases h with
  | @unanswered e h =>
    refine Or.inl ⟨.unreadable e, ?_, ?_⟩
    · rw [readDocument, h]
      rfl
    · cases hstatus : tree.status path with
      | error c =>
        have hcauses := @readDocument_of_status_error room _ _ _ hstatus
        rcases hcauses with ⟨e', he', hexpected, -⟩ | ⟨habsent, -⟩
        · rw [h] at he'
          cases he'
          exact hexpected
        · rw [h] at habsent
          cases habsent
      | ok entry =>
        rw [Tree.isPresent, Tree.test, hstatus] at h
        cases h
  | directory h => exact Or.inl ⟨_, readDocument_of_directory h, rfl⟩
  | malformed hfile hread => exact Or.inl ⟨_, readDocument_of_fault hfile hread, rfl⟩
  | deep hfile hread => exact Or.inl ⟨_, readDocument_of_fault hfile hread, rfl⟩
  | nonsense hfile hread hn => exact Or.inl ⟨_, readDocument_of_fault hfile hread, hn⟩
  | @key bytes value doc e hfile hread hentries he hkey =>
    refine Or.inr ⟨doc, ?_, not_all_isTextKey he hkey⟩
    rw [readDocument_of_file hfile, documentIn_eq, hread]
    dsimp only
    rw [truthy_of_mem hentries he, hentries]
    rfl

/-! ## The cause -/

/-- **Settings that are not loaded are so for a cause that nobody expects exactly if the file breaks
the loading**, whatever the environment and the options. -/
theorem isExpected_eq_false_iff {file : Option Path} (h : Plain options)
    (hload : load room tree file env options = .error cause) :
    cause.isExpected = false ↔ ∃ path, file = some path ∧ Breaks room tree path := by
  obtain ⟨upper, hupper, hoptions⟩ := exists_sets_fromOptions h
  cases hread : readDocument room tree file with
  | error e =>
    have hcause : e = cause := by
      rw [load, hread] at hload
      exact Except.error.inj hload
    subst hcause
    cases file with
    | none => cases hread
    | some path =>
      refine ⟨fun hexpected => ⟨path, rfl, breaks_of_readDocument hread hexpected⟩, ?_⟩
      rintro ⟨_, hsame, hbreaks⟩
      cases hsame
      rcases readDocument_of_breaks hbreaks with ⟨e', he', hexpected⟩ | ⟨doc, hdoc, -⟩
      · rw [hread] at he'
        cases he'
        exact hexpected
      · rw [hread] at hdoc
        cases hdoc
  | ok doc =>
    rw [load_of_readDocument hread hupper] at hload
    rw [isExpected_of_ofDocument hload, all_isTextKey_merge hoptions.layer.named,
      all_isTextKey_merge (sets_fromEnvironment env).layer.named]
    cases file with
    | none =>
      cases hread
      refine iff_of_false (fun hempty => by cases hempty) ?_
      rintro ⟨path, hnone, -⟩
      cases hnone
    | some path =>
      constructor
      · intro hall
        obtain ⟨e, he, hkey⟩ := List.all_eq_false.1 hall
        exact ⟨path, rfl, breaks_of_key hread he (Bool.eq_false_iff.2 hkey)⟩
      · rintro ⟨_, hsame, hbreaks⟩
        cases hsame
        rcases readDocument_of_breaks hbreaks with ⟨e, he, -⟩ | ⟨doc', hdoc', hall⟩
        · rw [hread] at he
          cases he
        · rw [hread] at hdoc'
          cases hdoc'
          exact hall

/-- A character that begins no token breaks the grammar, whatever is wrong with the next piece. -/
example (fault : Yaml.Fault) :
    Yaml.read commonRoom ⟨"@none", some fault⟩ = .error .malformed := rfl

/-- One list more than there is room for breaks the loading. -/
example : ((Yaml.read 4 (.ofFile "[[a]]".toUTF8.toList)).map fun _ => ()) = .ok () ∧
    ((Yaml.read 3 (.ofFile "[[a]]".toUTF8.toList)).map fun _ => ()) = .error .deep := by
  decide +kernel

end Settings
end Localize
