import Localize.Proofs.Build.Growth
import Localize.Proofs.Build.Told
import Localize.Proofs.Json.Nodes
import Localize.Proofs.Text.Bytes
import Localize.Proofs.Text.Order

/-!
# What a build writes as JSON

Programs read two things that a build writes: its report, and the table of a locale.

A report says its fields and no more (`Report.node`), whatever its texts have in them and however
long its lists are.  The file of a table says the pairs of the table, each once, by increasing keys
(`Catalog.Says`); so a file is that of one table only (`Catalog.Says.perm`).  The file holds that and
nothing else after the table is written, unless it is the log file too, which goes on.
-/

set_option autoImplicit false

namespace Localize

/-! ## Reports -/

/-- A number of seconds as it is written. -/
def Seconds.written : Seconds → Text
  | whole n => Text.ofInt n
  | exact x => Json.number x

namespace Report

open Json (Node)

/-- What a report says. -/
def node (r : Report) : Node := .object [
  ("locale", .string r.locale),
  ("catalog", match r.catalog with
    | some t => .string t
    | none => .null),
  ("status", .string r.status),
  ("duration_seconds", .number r.duration.written),
  ("assets_total", .number (Text.ofInt r.assets)),
  ("assets_rewritten", .number (Text.ofInt r.assetsRewritten)),
  ("assets_skipped", .number (Text.ofInt r.assetsSkipped)),
  ("nuggets_found", .number (Text.ofInt r.nuggets)),
  ("nuggets_translated", .number (Text.ofInt r.translated)),
  ("rewritten", .array (r.rewritten.map Node.ofFields)),
  ("missing", .array (r.missing.map Node.ofFields))]

theorem ofItems_rows (rows : List ReportRow) :
    Node.ofItems (rows.map Value.ofFields) = rows.map Node.ofFields := by
  rw [Node.ofItems_eq_map, List.map_map]
  exact List.map_congr_left fun row _ => Node.ofValue_ofFields row

/-- **A report reads back as what it says.** -/
theorem node?_json (r : Report) : Json.node? r.json = some r.node := by
  rw [json, Json.node?_pretty, Node.ofValue_ofFields, Node.ofFields, node, fields]
  have hduration : Node.ofValue r.duration.toValue = .number r.duration.written := by
    cases r.duration <;> rfl
  simp only [List.map_cons, List.map_nil, hduration, Node.ofValue, ofItems_rows]
  cases r.catalog <;> rfl

end Report

/-! ## Tables -/

namespace Catalog

open Std

variable {table table' : Table} {bytes : Bytes}

/-- The bytes say the pairs of a table, by increasing keys. -/
def Says (bytes : Bytes) (table : Table) : Prop :=
  ∃ (text : Text) (entries : List (Text × Text)), Utf8.decode bytes = .ok text ∧
    Json.node? text = some (.object (entries.map fun e => (e.1, .string e.2))) ∧
    entries.Perm table.entries ∧ entries.Pairwise fun a b => Text.compare a.1 b.1 = .lt

theorem pairwise_sorted (table : Table) :
    (sorted table).Pairwise fun a b => Text.le a.1 b.1 = true := by
  refine List.pairwise_mergeSort (fun a b c => TransCmp.isLE_trans) (fun a b => ?_) table.entries
  have hswap : Text.compare b.1 a.1 = (Text.compare a.1 b.1).swap := OrientedCmp.eq_swap
  rw [Text.le, Text.le, hswap]
  cases Text.compare a.1 b.1 <;> rfl

/-- **The lookup file says the table.** -/
theorem says_of_encode (hkeys : (table.entries.map Prod.fst).Nodup)
    (h : Utf8.encode (lookupText table) = .ok bytes) : Says bytes table := by
  have hperm : (sorted table).Perm table.entries := List.mergeSort_perm _ _
  refine ⟨lookupText table, sorted table, Utf8.decode_encode h, ?_, hperm, ?_⟩
  · rw [lookupText, Json.node?_pretty, Json.Node.ofValue_ofFields, Json.Node.ofFields, List.map_map]
    rfl
  · have hnodup : (sorted table).Pairwise fun a b => a.1 ≠ b.1 :=
      List.pairwise_map.1 ((hperm.map Prod.fst).nodup_iff.2 hkeys)
    exact ((pairwise_sorted table).and hnodup).imp fun hab => Text.lt_of_le_of_ne hab.1 hab.2

/-- **Different tables have different files.** -/
theorem Says.perm (h : Says bytes table) (h' : Says bytes table') :
    table.entries.Perm table'.entries := by
  obtain ⟨text, entries, htext, hnode, hperm, -⟩ := h
  obtain ⟨text', entries', htext', hnode', hperm', -⟩ := h'
  obtain rfl : text = text' := Except.ok.inj (htext.symm.trans htext')
  have hmembers := Json.Node.object.inj (Option.some.inj (hnode.symm.trans hnode'))
  have hsame : entries = entries' := by
    refine (List.map_inj_right fun e e' heq => ?_).1 hmembers
    obtain ⟨k, v⟩ := e
    obtain ⟨l, w⟩ := e'
    cases heq
    rfl
  subst hsame
  exact hperm.symm.trans hperm'

end Catalog

/-! ## Files -/

/-- A file that was written has the bytes that were written to it. -/
theorem Tree.readFile_of_writeFile {t t' : Tree} {p : Path} {bytes : Bytes}
    (h : t.writeFile p bytes = .ok t') : t'.readFile p = .ok bytes := by
  obtain ⟨place, hlocate, hentry, rfl⟩ := writeFile_eq_ok_iff.1 h
  have hroot : place ≠ [] := by
    rintro rfl
    exact hentry t.entry?_root
  refine readFile_eq_ok_iff.2 ⟨place, (Grows.set_file hentry bytes).locate_eq_ok hlocate, ?_⟩
  rw [fileAt?_set_file, if_pos ⟨rfl, hroot⟩]

namespace Build

variable {α : Type} {r r' : Run} {locale : Text} {table table' : Table}
variable {directory target : Path}

theorem Growing.logReady {m : Build α} (hm : Growing m) {out : Except BuildError α}
    (h : m r = (out, r')) (hready : r.LogReady) : r'.LogReady := by
  have hgrows := hm r hready
  rw [h] at hgrows
  exact hgrows.logReady hready

theorem growing_writeText (wrap : FileError → BuildError) (path : Path) (t : Text) :
    Growing (writeText wrap path t) :=
  sequential_growing.writeText (fun bytes => growing_writeFile wrap path bytes) t

/-- A text that was written to a file is there, byte by byte. -/
theorem of_writeText_eq_ok {wrap : FileError → BuildError} {path : Path} {t : Text} {u : Unit}
    (h : writeText wrap path t r = (.ok u, r')) :
    ∃ bytes, Utf8.encode t = .ok bytes ∧ r'.tree.readFile path = .ok bytes := by
  obtain ⟨-, r₁, -, hrest⟩ := of_bind_eq_ok h
  cases hencode : Utf8.encode t with
  | error e =>
    rw [hencode] at hrest
    cases (Prod.mk.inj hrest).1
  | ok bytes =>
    rw [hencode] at hrest
    dsimp only at hrest
    rw [change_apply] at hrest
    cases hwrite : r₁.tree.writeFile path bytes with
    | error e =>
      rw [hwrite] at hrest
      cases (Prod.mk.inj hrest).1
    | ok tree =>
      rw [hwrite] at hrest
      obtain rfl := (Prod.mk.inj hrest).2
      exact ⟨bytes, rfl, Tree.readFile_of_writeFile hwrite⟩

/-- A file has the bytes, and nothing else unless it is the log file. -/
def HasBytes (r : Run) (path : Path) (bytes : Bytes) : Prop :=
  ∃ more, r.tree.readFile path = .ok (bytes ++ more) ∧
    (more = [] ∨ ∃ place, r.sinks.file = some place ∧ r.tree.locate path = .ok place)

theorem hasBytes_log {path : Path} {bytes : Bytes} (hready : r.LogReady)
    (h : r.tree.readFile path = .ok bytes) (x : Record) :
    HasBytes (logTo true x r) path bytes := by
  have hgrows : r.Grows (logTo true x r) := growing_log x r hready
  obtain ⟨place, hlocate, hfile⟩ := Tree.readFile_eq_ok_iff.1 h
  have hlocate' := hgrows.tree.locate_eq_ok hlocate
  rcases tree_logTo true x r with hsame | ⟨log, line, hlog, happend⟩
  · refine ⟨[], ?_, Or.inl rfl⟩
    rw [hsame, h, List.append_nil]
  · by_cases hplace : place = log
    · subst hplace
      refine ⟨line, Tree.readFile_eq_ok_iff.2 ⟨place, hlocate', ?_⟩, Or.inr ⟨place, ?_, hlocate'⟩⟩
      · rw [happend, Tree.fileAt?_append hfile]
      · rw [hgrows.sinks, hlog]
    · refine ⟨[], Tree.readFile_eq_ok_iff.2 ⟨place, hlocate', ?_⟩, Or.inl rfl⟩
      rw [happend, (Tree.change_append r.tree log line).files place hplace, hfile, List.append_nil]

/-- **The file of a table says the table.** -/
theorem says_of_writeTable (hkeys : (table.entries.map Prod.fst).Nodup) (hready : r.LogReady)
    (h : writeTable locale table directory r = (.ok target, r')) :
    target = Catalog.lookupTarget locale directory ∧
      ∃ bytes, HasBytes r' target bytes ∧ Catalog.Says bytes table := by
  obtain rfl := of_writeTable_eq_ok h
  obtain ⟨_, r₁, hmade, hrest⟩ := of_bind_eq_ok h
  obtain ⟨_, r₂, hwrite, hlast⟩ := of_bind_eq_ok hrest
  obtain ⟨bytes, hencode, hread⟩ := of_writeText_eq_ok hwrite
  have hready₁ := (growing_makeDirectories _ directory).logReady hmade hready
  have hready₂ := (growing_writeText _ _ (Catalog.lookupText table)).logReady hwrite hready₁
  obtain rfl : logTo true _ r₂ = r' := (Prod.mk.inj hlast).2
  exact ⟨rfl, bytes, hasBytes_log hready₂ hread _, Catalog.says_of_encode hkeys hencode⟩

/-- **What a build writes as JSON reads back**: a report as its fields, and the file of a table as
the table, by increasing keys.  So no two tables have one file. -/
theorem json_reads_back :
    (∀ report : Report, Json.node? report.json = some report.node) ∧
    (∀ (locale : Text) (table : Table) (directory target : Path) (r r' : Run),
      (table.entries.map Prod.fst).Nodup → r.LogReady →
      writeTable locale table directory r = (.ok target, r') →
      target = Catalog.lookupTarget locale directory ∧
        ∃ bytes, HasBytes r' target bytes ∧ Catalog.Says bytes table) ∧
    ∀ (bytes : Bytes) (table table' : Table), Catalog.Says bytes table →
      Catalog.Says bytes table' → table.entries.Perm table'.entries :=
  ⟨Report.node?_json, fun _ _ _ _ _ _ => says_of_writeTable, fun _ _ _ => Catalog.Says.perm⟩

/-- Keys are put in order, and no quote in them ends them. -/
theorem json_reads_back_quoted_key :
    let table : Table := ⟨[("b", "2"), ("a\": \"", "\u00FC\n")]⟩
    let r : Run := { tree := ⟨[], []⟩ }
    (table.entries.map Prod.fst).Nodup ∧ r.LogReady ∧
      ∃ target r' bytes, writeTable "fr" table (Path.ofText "lookup") r = (.ok target, r') ∧
        target.toText = ("lookup/fr.json" : Text) ∧ HasBytes r' target bytes ∧
        Catalog.Says bytes table ∧
        ∀ table', Catalog.Says bytes table' → table.entries.Perm table'.entries := by
  intro table r
  have hkeys : (table.entries.map Prod.fst).Nodup := by decide
  have hready : r.LogReady := nofun
  have hsorted : Catalog.sorted table
      = ([("a\": \"", "\u00FC\n"), ("b", "2")] : List (Text × Text)) := by
    have hle : Text.le "b" "a\": \"" = false := by decide
    simp [table, Catalog.sorted, List.mergeSort, hle]
  have hwrite : (writeTable "fr" table (Path.ofText "lookup") r).1
      = .ok (Path.ofText "lookup/fr.json") := by
    rw [writeTable, Catalog.lookupText, hsorted]
    decide +kernel
  obtain ⟨-, hfile, hperm⟩ := json_reads_back
  obtain ⟨-, bytes, hbytes, hsays⟩ := hfile _ table _ _ r _ hkeys hready (eq_of_outcome hwrite)
  exact ⟨hkeys, hready, _, _, bytes, eq_of_outcome hwrite, by decide +kernel, hbytes, hsays,
    fun table' => hperm bytes table table' hsays⟩

end Build
end Localize
