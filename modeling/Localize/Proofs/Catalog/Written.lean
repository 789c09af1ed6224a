import Localize.Catalog.Ingest
import Localize.Proofs.Catalog.Literal
import Localize.Proofs.Nugget.LineEnds
import Localize.Proofs.Text.Lines
import Localize.Proofs.Text.Utf8

/-!
# Catalogs that were written

A table is written as a catalog, each pair as a line with the key and a line with the wording, and
with as much white space between the pairs as one likes (`catalogText`).  Reading is the inverse:
`ingest_catalogText` says that the table comes back, whatever quotes, backslashes, keywords and
comment marks its texts hold.  What the texts must not hold are code points that end a line and have
no spelling (`isWritable`), and, in keys, line ends of two code points, for these are taken for line
feeds.

The entries of a catalog come out one line late: an entry is complete only when the next key is read,
or at the end.  So the reader is followed from string to string (`readLines_catalogLines`).
-/

set_option autoImplicit false

namespace Localize

namespace Table

variable {key value : Text} {pairs more : List (Text × Text)}

/-- A key that is not there goes to the end. -/
theorem put_of_not_mem (h : key ∉ pairs.map Prod.fst) :
    put key value pairs = pairs ++ [(key, value)] := by
  induction pairs with
  | nil => rfl
  | cons pair pairs ih =>
    rw [List.map_cons, List.mem_cons, not_or] at h
    rw [put, if_neg (Ne.symm h.1), ih h.2]
    rfl

/-- Pairs that are set one after the other stand in that order, if no key comes twice. -/
theorem foldl_insert_of_nodup (h : ((pairs ++ more).map Prod.fst).Nodup) :
    more.foldl (fun (table : Table) pair => table.insert pair.1 pair.2) ⟨pairs⟩
      = ⟨pairs ++ more⟩ := by
  induction more generalizing pairs with
  | nil => rw [List.append_nil]; rfl
  | cons pair more ih =>
    have hnew : pair.1 ∉ pairs.map Prod.fst := by
      rw [List.map_append, List.map_cons, List.nodup_append] at h
      exact fun hmem => h.2.2 _ hmem _ List.mem_cons_self rfl
    rw [List.foldl_cons, insert, put_of_not_mem hnew, ih, List.append_assoc, List.singleton_append]
    rw [List.append_assoc, List.singleton_append]
    exact h

end Table

namespace Po

/-! ## Writing -/

/-- A pair of a key and its wording, with the lines of white space in front of it. -/
structure Writing where
  gap : List Text
  key : Text
  value : Text
deriving DecidableEq, Repr

/-- Lines of white space. -/
def Gap (lines : List Text) : Prop :=
  ∀ l ∈ lines, ∀ c ∈ l, c.isBlank = true ∧ c.isLineEnd = false

namespace Writing

/-- The key and the wording. -/
def pair (w : Writing) : Text × Text := (w.key, w.value)

/-- The lines that a pair is written as. -/
def lines (w : Writing) : List Text :=
  w.gap ++ [stringLine "msgid" w.key, stringLine "msgstr" w.value]

/-- The entry that a pair is read as. -/
def entry (w : Writing) : Entry := { id := w.key, string := w.value }

/-- A pair that can be written: the texts are there and can be spelled, and no line end of the key
is one of two code points. -/
structure Sound (w : Writing) : Prop where
  gap : Gap w.gap
  key_ne : w.key ≠ []
  key_writable : ∀ c ∈ w.key, isWritable c = true
  key_no_crlf : ¬ [CodePoint.ofChar '\r', CodePoint.ofChar '\n'] <:+: w.key
  value_ne : w.value ≠ []
  value_writable : ∀ c ∈ w.value, isWritable c = true

end Writing

/-- The lines of a catalog: those of its pairs, and white space at the end. -/
def catalogLines (ws : List Writing) (final : List Text) : List Text :=
  ws.flatMap Writing.lines ++ final

theorem catalogLines_cons (w : Writing) (ws : List Writing) (final : List Text) :
    catalogLines (w :: ws) final = w.lines ++ catalogLines ws final := by
  rw [catalogLines, List.flatMap_cons, List.append_assoc, catalogLines]

/-- The text of a catalog.  It ends in a line feed if the last line is empty. -/
def catalogText (ws : List Writing) (final : List Text) : Text :=
  Text.join [CodePoint.ofChar '\n'] (catalogLines ws final)

/-! ## Reading -/

variable {ws : List Writing} {w : Writing} {final gap : List Text} {c : CodePoint} {l : Text}

/-- White space between the lines is passed over. -/
theorem readLines_append_of_gap (h : Gap gap) (number : Nat) (comment : Bool) (r : Reader)
    (rest : List Text) :
    readLines number comment r (gap ++ rest) = readLines (number + gap.length) comment r rest := by
  induction gap generalizing number with
  | nil => rfl
  | cons l gap ih =>
    have hblank : Text.strip l = [] :=
      Text.strip_of_blank fun c hc => (h l List.mem_cons_self c hc).1
    rw [List.cons_append, readLines, hblank, List.length_cons, Nat.add_comm gap.length 1,
      ← Nat.add_assoc]
    exact ih (fun l' hl' => h l' (List.mem_cons_of_mem _ hl')) (number + 1)

/-- A line with a string goes to the reader. -/
theorem readLines_stringLine {keyword : Text} {mark : Mark} {r r' : Reader} {t : Text}
    (hkeyword : keyword? keyword = some mark) (hstep : r.step ⟨mark, quoted t, false⟩ = some r')
    (number : Nat) (comment : Bool) (rest : List Text) :
    readLines number comment r (stringLine keyword t :: rest)
      = readLines (number + 1) false r' rest := by
  rw [readLines, strip_stringLine hkeyword]
  split
  · rename_i hnil
    exact absurd hnil (by simp [stringLine])
  · rw [Line.read_stringLine hkeyword]
    dsimp only
    rw [hstep]

/-- A reader that takes a key for that of a new entry. -/
def Reader.Ready (r : Reader) : Prop :=
  allowed .id r.position = true ∧ (r.turn .id).entry = {}

/-- The reader after the key of a pair. -/
def Reader.tookKey (r : Reader) (w : Writing) : Reader :=
  ⟨.after .id, { id := w.key }, r.number, (r.turn .id).complete⟩

/-- The reader after a pair. -/
def Reader.took (r : Reader) (w : Writing) : Reader :=
  ⟨.after .string, w.entry, r.number, (r.turn .id).complete⟩

theorem Reader.step_key {r : Reader} (hr : r.Ready) (w : Writing) :
    r.step ⟨.id, quoted w.key, false⟩ = some (r.tookKey w) := by
  have hnumber : (r.turn .id).number = r.number := by
    rw [Reader.turn]
    split <;> rfl
  rw [Reader.step, if_pos hr.1, Reader.fill]
  dsimp only [Option.bind_eq_bind, Option.bind_some]
  rw [hr.2, inner_quoted, unescape_escape, hnumber]
  rfl

theorem Reader.step_value (r : Reader) (w : Writing) :
    (r.tookKey w).step ⟨.string, quoted w.value, false⟩ = some (r.took w) := by
  have hfill : (r.tookKey w).fill ⟨.string, quoted w.value, false⟩
      = some { r.tookKey w with entry := w.entry } := by
    rw [Reader.fill]
    dsimp only
    rw [inner_quoted, unescape_escape]
    rfl
  have hturn : (r.tookKey w).turn .string = r.tookKey w := rfl
  have hallowed : allowed .string (r.tookKey w).position = true := rfl
  rw [Reader.step, hturn, hfill, if_pos hallowed]
  rfl

/-- A pair is followed by a new entry, and complete by then. -/
theorem Reader.ready_took (r : Reader) (w : Writing) :
    (r.took w).Ready ∧ ((r.took w).turn .id).complete = w.entry :: (r.turn .id).complete :=
  ⟨⟨rfl, rfl⟩, rfl⟩

/-- **A pair is read as its entry**, which then is the current one. -/
theorem readLines_writing {r : Reader} (hr : r.Ready) (hw : Gap w.gap) (number : Nat)
    (comment : Bool) (rest : List Text) :
    ∃ number', readLines number comment r (w.lines ++ rest)
      = readLines number' false (r.took w) rest := by
  refine ⟨number + w.gap.length + 1 + 1, ?_⟩
  rw [Writing.lines, List.append_assoc, readLines_append_of_gap hw, List.cons_append,
    List.singleton_append, readLines_stringLine rfl (Reader.step_key hr w),
    readLines_stringLine rfl (Reader.step_value r w)]

/-- **Written lines are read as the entries of the pairs**, after the entries that are complete and
the current one. -/
theorem readLines_catalogLines (hws : ∀ w ∈ ws, Gap w.gap) (hfinal : Gap final) (number : Nat)
    (r : Reader) (w : Writing) :
    readLines number false (r.took w) (catalogLines ws final)
      = .ok ((r.turn .id).complete.reverse ++ w.entry :: ws.map Writing.entry) := by
  induction ws generalizing number r w with
  | nil =>
    -- the last line that is not empty is no comment, so the current entry counts
    have hend := readLines_append_of_gap hfinal number false (r.took w) []
    rw [List.append_nil, readLines] at hend
    rw [catalogLines, List.flatMap_nil, List.nil_append, hend]
    simp [Reader.took]
  | cons next ws ih =>
    obtain ⟨hready, hcomplete⟩ := Reader.ready_took r w
    obtain ⟨number', hnext⟩ := readLines_writing hready (hws next List.mem_cons_self) number false
      (catalogLines ws final)
    rw [catalogLines_cons, hnext, ih fun v hv => hws v (List.mem_cons_of_mem _ hv),
      hcomplete, List.reverse_cons, List.append_assoc, List.singleton_append, List.map_cons]

/-- The first line begins with white space or with a keyword. -/
theorem catalogLines_eq_cons (hws : ws ≠ []) (hgap : ∀ w ∈ ws, Gap w.gap) (final : List Text) :
    ∃ first next rest, catalogLines ws final = first :: next :: rest ∧
      first.head? ≠ some 0xFEFF := by
  obtain ⟨w, ws, rfl⟩ := List.exists_cons_of_ne_nil hws
  have hw := hgap w List.mem_cons_self
  rw [catalogLines_cons, Writing.lines, List.append_assoc]
  cases hlines : w.gap with
  | nil =>
    refine ⟨_, _, _, rfl, ?_⟩
    show some (CodePoint.ofChar 'm') ≠ some 0xFEFF
    decide
  | cons first gap =>
    obtain ⟨next, rest, hnext⟩ : ∃ next rest, gap ++ ([stringLine "msgid" w.key,
        stringLine "msgstr" w.value] ++ catalogLines ws final) = next :: rest :=
      List.exists_cons_of_ne_nil (by simp)
    refine ⟨first, next, rest, by rw [List.cons_append, hnext], fun hhead => ?_⟩
    rw [hlines] at hw
    have hblank := (hw first List.mem_cons_self _ (List.mem_of_mem_head? hhead)).1
    exact absurd hblank (by decide)

/-- **The entries of a catalog that was written** are those of the pairs. -/
theorem entries_catalogLines (hws : ws ≠ []) (hgap : ∀ w ∈ ws, Gap w.gap) (hfinal : Gap final) :
    entries (catalogLines ws final) = .ok (ws.map Writing.entry) := by
  -- a byte order mark would be taken off the first line
  obtain ⟨first, next, rest, hlines, hhead⟩ := catalogLines_eq_cons hws hgap final
  have hstart : entries (catalogLines ws final) = readLines 1 true {} (catalogLines ws final) := by
    rw [hlines]
    unfold entries
    split
    · rename_i heq
      cases heq
      exact absurd rfl hhead
    · rfl
  obtain ⟨w, ws, rfl⟩ := List.exists_cons_of_ne_nil hws
  have hready : Reader.Ready {} := ⟨rfl, rfl⟩
  obtain ⟨number, hfirst⟩ := readLines_writing hready (hgap w List.mem_cons_self) 1 true
    (catalogLines ws final)
  rw [hstart, catalogLines_cons, hfirst,
    readLines_catalogLines (fun v hv => hgap v (List.mem_cons_of_mem _ hv)) hfinal]
  rfl

/-! ## The text -/

/-- No line of a written catalog has an end in it, and none has a surrogate. -/
theorem of_mem_catalogLines (hws : ∀ w ∈ ws, w.Sound) (hfinal : Gap final)
    (hl : l ∈ catalogLines ws final) (hc : c ∈ l) : c.isLineEnd = false ∧ c.isSurrogate = false := by
  have hgap : ∀ {gap : List Text}, Gap gap → l ∈ gap →
      c.isLineEnd = false ∧ c.isSurrogate = false := fun hgap hmem => by
    obtain ⟨hblank, hend⟩ := hgap l hmem c hc
    exact ⟨hend, CodePoint.isSurrogate_of_isBlank hblank⟩
  rcases List.mem_append.1 hl with hpairs | hmem
  · obtain ⟨w, hw, hmem⟩ := List.mem_flatMap.1 hpairs
    have hsound := hws w hw
    rcases List.mem_append.1 hmem with hmem | hmem
    · exact hgap hsound.gap hmem
    · rw [List.mem_cons, List.mem_singleton] at hmem
      rcases hmem with rfl | rfl
      · exact of_mem_stringLine rfl hsound.key_writable hc
      · exact of_mem_stringLine rfl hsound.value_writable hc
  · exact hgap hfinal hmem

/-- A line with a string comes last if no white space does. -/
theorem getLast?_catalogLines_nil (ws : List Writing) :
    (catalogLines ws []).getLast? ≠ some [] := by
  rcases List.eq_nil_or_concat ws with rfl | ⟨ws, w, rfl⟩
  · simp [catalogLines]
  · simp [catalogLines, Writing.lines, stringLine]

/-- A catalog is cut into its lines, but for an empty one at the end. -/
theorem lines_catalogText (hws : ∀ w ∈ ws, w.Sound) (hfinal : Gap final) :
    ∃ final', Gap final' ∧ Text.lines (catalogText ws final) = catalogLines ws final' := by
  have hlines : Text.lines (catalogText ws final) = _ :=
    Text.lines_join fun l hl c hc => (of_mem_catalogLines hws hfinal hl hc).1
  rw [hlines]
  split
  · rename_i hlast
    have hne : final ≠ [] := by
      rintro rfl
      exact getLast?_catalogLines_nil ws hlast
    refine ⟨final.dropLast, fun l hl => hfinal l (List.dropLast_subset final hl), ?_⟩
    exact List.dropLast_append_of_ne_nil hne
  · exact ⟨final, hfinal, rfl⟩

/-- A catalog has bytes. -/
theorem encode_catalogText (hws : ∀ w ∈ ws, w.Sound) (hfinal : Gap final) :
    ∃ bytes, Utf8.encode (catalogText ws final) = .ok bytes := by
  refine ⟨_, Utf8.encode_of_no_surrogate fun c hc => ?_⟩
  rcases Text.mem_join hc with hend | ⟨l, hl, hc⟩
  · rw [List.mem_singleton] at hend
    subst hend
    decide
  · exact (of_mem_catalogLines hws hfinal hl hc).2

/-- The text of a catalog begins with no byte order mark. -/
theorem head?_catalogText (hws : ws ≠ []) (hgap : ∀ w ∈ ws, Gap w.gap) :
    (catalogText ws final).head? ≠ some 0xFEFF := by
  obtain ⟨first, next, rest, hlines, hhead⟩ := catalogLines_eq_cons hws hgap final
  rw [catalogText, hlines, Text.join_cons_cons]
  cases first with
  | nil =>
    show some (CodePoint.ofChar '\n') ≠ some 0xFEFF
    decide
  | cons c first => exact hhead

/-- The text of a catalog is not only white space. -/
theorem strip_catalogText (hws : ws ≠ []) : Text.strip (catalogText ws final) ≠ [] := by
  obtain ⟨w, ws, rfl⟩ := List.exists_cons_of_ne_nil hws
  have hline : stringLine "msgid" w.key ∈ catalogLines (w :: ws) final := by
    simp [catalogLines, Writing.lines]
  have hquote : CodePoint.ofChar '"' ∈ stringLine "msgid" w.key := by
    simp [stringLine, quoted]
  exact Text.strip_ne_nil (Text.mem_join_of_mem hline hquote) (by decide)

end Po

namespace Catalog

open Po (Writing Gap catalogText)

variable {ws : List Writing} {final : List Text}

/-- Entries of pairs give the table of the pairs, and all are of use. -/
theorem tableOf_entries (includeFuzzy : Bool) (hws : ∀ w ∈ ws, w.Sound)
    (hkeys : (ws.map Writing.key).Nodup) :
    tableOf includeFuzzy (ws.map Writing.entry) = ⟨ws.map Writing.pair⟩ ∧
      skipped includeFuzzy (ws.map Writing.entry) = 0 := by
  have husable : ∀ e ∈ ws.map Writing.entry, usable includeFuzzy e = true := by
    rintro e he
    obtain ⟨w, hw, rfl⟩ := List.mem_map.1 he
    have hsound := hws w hw
    simp [usable, valueOf, Writing.entry, hsound.key_ne, hsound.value_ne]
  refine ⟨?_, ?_⟩
  · have hpairs : (ws.map fun w => (Nugget.keyOf w.entry.id, valueOf w.entry))
        = ws.map Writing.pair := by
      refine List.map_congr_left fun w hw => ?_
      show (Nugget.keyOf w.key, w.value) = _
      rw [Nugget.keyOf_of_no_crlf (hws w hw).key_no_crlf]
      rfl
    have hnodup : (([] ++ ws.map Writing.pair).map Prod.fst).Nodup := by
      rw [List.nil_append, List.map_map]
      exact hkeys
    have hfold := Table.foldl_insert_of_nodup hnodup
    rw [List.nil_append, ← hpairs, List.foldl_map] at hfold
    rw [tableOf, List.filter_eq_self.2 husable, List.foldl_map, Table.empty, hfold, hpairs]
  · rw [skipped, List.filter_eq_nil_iff.2]
    · exact Nat.zero_sub _
    · intro e he
      simp [husable e he]

/-- **Reading a catalog undoes writing it.**  A table of texts that can be written comes back from
the bytes of its catalog, and from these with a byte order mark in front, unless the text of the
catalog is the name of a file. -/
theorem ingest_catalogText (hne : ws ≠ []) (hws : ∀ w ∈ ws, w.Sound)
    (hkeys : (ws.map Writing.key).Nodup) (hfinal : Gap final) (fileNamed : Text → Option Bytes)
    (hfile : fileNamed (catalogText ws final) = none) (locale : Text) (includeFuzzy : Bool) :
    ∃ bytes, Utf8.encode (catalogText ws final) = .ok bytes ∧
      ∀ data, data = bytes ∨ data = Utf8.mark ++ bytes →
        ingest locale includeFuzzy data fileNamed
          = .ok ⟨⟨ws.map Writing.pair⟩, 0⟩ := by
  have hgap : ∀ w ∈ ws, Gap w.gap := fun w hw => (hws w hw).gap
  obtain ⟨bytes, hbytes⟩ := Po.encode_catalogText hws hfinal
  obtain ⟨hplain, hmarked⟩ := Utf8.decodeMarked_encode hbytes (Po.head?_catalogText hne hgap)
  refine ⟨bytes, hbytes, fun data hdata => ?_⟩
  have hdecoded : Utf8.decodeMarked data = .ok (catalogText ws final) := by
    rcases hdata with rfl | rfl
    · exact hplain
    · exact hmarked
  obtain ⟨final', hfinal', hlines⟩ := Po.lines_catalogText hws hfinal
  have hentries : entriesOf locale (catalogText ws final) fileNamed
      = .ok (ws.map Writing.entry) := by
    rw [entriesOf, hfile]
    dsimp only
    rw [entriesIn, hlines, Po.entries_catalogLines hne hgap hfinal']
    rfl
  obtain ⟨htable, hskipped⟩ := tableOf_entries includeFuzzy hws hkeys
  rw [ingest, hdecoded]
  dsimp only
  rw [if_neg (Po.strip_catalogText hne), hentries, ← htable, ← hskipped]
  rfl

/-- Two pairs with quotes, backslashes, comment marks and line ends, and white space in between. -/
def spelled : List Writing :=
  [⟨[], Text.ofChars ['#', '"', '\r'], Text.ofChars ['\\', '\r', '\n']⟩,
    ⟨[[], Text.ofChars [' ']], Text.ofChars ['\\', '"'], Text.ofChars ['#', '~']⟩]

theorem ingest_catalogText_spelled :
    ∃ bytes, Utf8.encode (catalogText spelled [[]]) = .ok bytes ∧
      ∀ data, data = bytes ∨ data = Utf8.mark ++ bytes →
        ingest (Text.ofChars ['f', 'r']) false data (fun _ => none)
          = .ok ⟨⟨[(Text.ofChars ['#', '"', '\r'], Text.ofChars ['\\', '\r', '\n']),
            (Text.ofChars ['\\', '"'], Text.ofChars ['#', '~'])]⟩, 0⟩ := by
  have hgap : Gap [[], Text.ofChars [' ']] := by
    rintro l hl c hc
    simp only [List.mem_cons, List.not_mem_nil, or_false] at hl
    rcases hl with rfl | rfl
    · cases hc
    · rw [show c = CodePoint.ofChar ' ' from List.mem_singleton.1 hc]
      decide
  have hsound : ∀ w ∈ spelled, w.Sound := by
    intro w hw
    simp only [spelled, List.mem_cons, List.not_mem_nil, or_false] at hw
    rcases hw with rfl | rfl
    · exact ⟨nofun, by decide, List.all_eq_true.1 (by decide), by decide, by decide,
        List.all_eq_true.1 (by decide)⟩
    · exact ⟨hgap, by decide, List.all_eq_true.1 (by decide), by decide, by decide,
        List.all_eq_true.1 (by decide)⟩
  have hfinal : Gap [[]] := by
    rintro l hl c hc
    rw [List.mem_singleton.1 hl] at hc
    cases hc
  exact ingest_catalogText (by decide) hsound (by decide) hfinal _ rfl _ _

end Catalog
end Localize
