import Localize.Catalog.Ingest
import Localize.Proofs.Files.Naming

/-!
# Catalogs that name a file

A catalog is given by its bytes, but if their text is the name of a file, that file is read in their
place.  So what comes of the bytes hangs on the tree, as far as that file goes and no further
(`ingest_congr`).  And where the text names a file in any tree at all, it does hang on it: with one
content of the file there is a table, and with another there is none (`tableIn_of_empty`,
`tableIn_of_broken`).  `tableIn_eq_iff` puts the two together.
-/

set_option autoImplicit false

namespace Localize
namespace Catalog

variable {locale content : Text} {includeFuzzy : Bool} {bytes : Bytes} {t : Tree}

/-- What comes of a catalog hangs on the file that its text names, if it names one, and on no other
file. -/
theorem ingest_congr {named named' : Text → Option Bytes}
    (h : ∀ text, Utf8.decodeMarked bytes = .ok text → Text.strip text ≠ [] →
      named' text = named text) :
    ingest locale includeFuzzy bytes named' = ingest locale includeFuzzy bytes named := by
  rw [ingest, ingest]
  split
  · rfl
  · rename_i text htext
    split
    · rfl
    · rename_i hblank
      rw [entriesOf, entriesOf, h text htext hblank]

/-- The table that bytes give in a tree, if they give one. -/
def tableIn (locale : Text) (includeFuzzy : Bool) (bytes : Bytes) (t : Tree) : Option Table :=
  (ingest locale includeFuzzy bytes t.fileNamed?).toOption.map (·.table)

/-- The table of a catalog that is told by its entries. -/
theorem tableIn_of_entriesOf (hdecode : Utf8.decodeMarked bytes = .ok content)
    (hblank : Text.strip content ≠ []) :
    tableIn locale includeFuzzy bytes t
      = (entriesOf locale content t.fileNamed?).toOption.map (tableOf includeFuzzy) := by
  rw [tableIn, ingest, hdecode]
  dsimp only
  rw [if_neg hblank]
  cases entriesOf locale content t.fileNamed? <;> rfl

/-- A catalog that names an empty file gives a table. -/
theorem tableIn_of_empty (hdecode : Utf8.decodeMarked bytes = .ok content)
    (hblank : Text.strip content ≠ []) (hnamed : t.fileNamed? content = some []) :
    tableIn locale includeFuzzy bytes t = some Table.empty := by
  rw [tableIn_of_entriesOf hdecode hblank, entriesOf, hnamed]
  rfl

/-- The letter that begins no line of a catalog. -/
def broken : Bytes := [120]

/-- A catalog that names a file with a broken line gives none. -/
theorem tableIn_of_broken (hdecode : Utf8.decodeMarked bytes = .ok content)
    (hblank : Text.strip content ≠ []) (hnamed : t.fileNamed? content = some broken) :
    tableIn locale includeFuzzy bytes t = none := by
  rw [tableIn_of_entriesOf hdecode hblank, entriesOf, hnamed]
  rfl

/-- **What a catalog gives hangs on its bytes, and on the file they name.**  In two trees in which
the text of the bytes names the same, the same comes of them, failures included.  The bytes give the
same table in all trees exactly if their text is blank or no text at all, or if it names no file in
any tree.  The latter holds of texts that the system cannot be asked about, that are too long for a
path, or that have a part too long for a name. -/
theorem tableIn_eq_iff (locale : Text) (includeFuzzy : Bool) (bytes : Bytes) :
    (∀ t t' : Tree,
        (∀ content, Utf8.decodeMarked bytes = .ok content → Text.strip content ≠ [] →
          t'.fileNamed? content = t.fileNamed? content) →
        ingest locale includeFuzzy bytes t'.fileNamed?
          = ingest locale includeFuzzy bytes t.fileNamed?) ∧
      ((∀ t t' : Tree, t.WellFormed → t'.WellFormed →
          tableIn locale includeFuzzy bytes t' = tableIn locale includeFuzzy bytes t) ↔
        ∀ content, Utf8.decodeMarked bytes = .ok content → Text.strip content ≠ [] →
          Tree.NamesNoFile content) ∧
      (∀ content, pathFault? content ≠ none ∨ Tree.maxPath < Tree.byteLength content ∨
          (∃ part ∈ Text.splitOn Path.slash content, Tree.maxName < Tree.byteLength part) →
        Tree.NamesNoFile content) ∧
      ∀ content, CodePoint.ofChar '/' ∉ content →
        (Tree.NamesNoFile content ↔ content = [] ∨ pathFault? content ≠ none ∨
          content = Path.dot ∨ content = Path.up ∨ Tree.maxName < Tree.byteLength content) := by
  refine ⟨fun _ _ hsame => ingest_congr hsame, ⟨?_, ?_⟩, fun _ => Tree.namesNoFile_of_long,
    fun _ => Tree.namesNoFile_iff_of_no_slash⟩
  · intro hsame content hdecode hblank t hwell
    refine Option.eq_none_iff_forall_ne_some.2 fun old hnamed => ?_
    obtain ⟨place, hlocate, hfile⟩ := Tree.fileNamed?_eq_some_iff.1 hnamed
    have htable : tableIn locale includeFuzzy bytes (t.set place (.file [])) = some Table.empty :=
      tableIn_of_empty hdecode hblank (Tree.fileNamed?_set_file hlocate hfile _)
    have hnone : tableIn locale includeFuzzy bytes (t.set place (.file broken)) = none :=
      tableIn_of_broken hdecode hblank (Tree.fileNamed?_set_file hlocate hfile _)
    rw [← hsame _ _ (hwell.set_file hfile broken) (hwell.set_file hfile []), htable] at hnone
    cases hnone
  · intro hnone t t' hwell hwell'
    refine congrArg (Option.map (·.table)) (congrArg Except.toOption (ingest_congr ?_))
    intro content hdecode hblank
    rw [hnone content hdecode hblank t hwell, hnone content hdecode hblank t' hwell']

/-! ### A catalog of one letter -/

/-- The bytes of the catalog `c`. -/
def letter : Bytes := [99]

/-- A tree in which `c` is the name of a catalog by which `a` is `A`. -/
def naming : Tree where
  entries := [([['c']], .file (Utf8.encodeLossy (Text.ofString "msgid \"a\"\nmsgstr \"A\"\n")))]
  cwd := []

/-- The tree of a file that `c` does not name. -/
def apart : Tree := ⟨[([['d']], .file [])], []⟩

theorem tableIn_eq_iff_letter :
    ingest (Text.ofChars ['f', 'r']) false letter apart.fileNamed?
        = ingest (Text.ofChars ['f', 'r']) false letter (Tree.fileNamed? ⟨[], []⟩) ∧
      ¬ (∀ t t' : Tree, t.WellFormed → t'.WellFormed →
        tableIn (Text.ofChars ['f', 'r']) false letter t'
          = tableIn (Text.ofChars ['f', 'r']) false letter t) ∧
      Tree.NamesNoFile (List.replicate 256 (CodePoint.ofChar 'c')) := by
  obtain ⟨hcongr, hiff, hlong, -⟩ := tableIn_eq_iff (Text.ofChars ['f', 'r']) false letter
  refine ⟨hcongr _ _ fun content hdecode _ => ?_, fun hsame => ?_, hlong _ (Or.inr (Or.inr ?_))⟩
  · obtain rfl : Text.ofChars ['c'] = content :=
      Except.ok.inj ((by decide +kernel : Utf8.decodeMarked letter = .ok _).symm.trans hdecode)
    decide +kernel
  · have hnone := hiff.1 hsame (Text.ofChars ['c']) (by decide +kernel) (by decide) naming
      (by decide +kernel)
    exact absurd hnone (by decide +kernel)
  · exact ⟨List.replicate 256 (CodePoint.ofChar 'c'), by decide +kernel, by decide +kernel⟩

/-- **A table need not come of its bytes alone.**  The catalog `c` is broken, unless there is a file
`c`. -/
theorem not_forall_tableIn_eq :
    ¬ ∀ (locale : Text) (includeFuzzy : Bool) (bytes : Bytes) (t t' : Tree),
        t.WellFormed → t'.WellFormed →
      tableIn locale includeFuzzy bytes t' = tableIn locale includeFuzzy bytes t := by
  intro hsame
  have htable : tableIn (Text.ofChars ['f', 'r']) false letter naming
      = some ⟨[(Text.ofChars ['a'], Text.ofChars ['A'])]⟩ := by decide +kernel
  rw [hsame (Text.ofChars ['f', 'r']) false letter ⟨[], []⟩ naming (by decide +kernel)
    (by decide +kernel)] at htable
  exact absurd htable (by decide +kernel)

end Catalog
end Localize
