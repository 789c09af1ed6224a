import Localize.Proofs.Log.Entry

/-!
# What people see of an event, however it is logged

An event may be logged as such, with its fields, or as a message that has the name of the event for
its text and carries the fields beside.  The two records have little in common: the one comes with
the time, the level, the logger and what is known of the run among its fields, and of the other the
fields have to be told from what every message has.  But a line for people shows a few fields only
(`Human.shownNames`), and under each of their names the two records have the same.  So people see
the same of both (`Sinks.seen_of_event_and_message`), if the fields can be logged in either way at
all (`Loggable`); the private ones, whose names start with an underscore, are in no line anyway.
-/

set_option autoImplicit false

namespace Localize

variable {fields told context : Arguments} {name event time : Text} {level : Int}

namespace Arguments

theorem get?_eq_none_iff : fields.get? name = none ↔ name ∉ fields.map Prod.fst := by
  rw [get?, List.lookup_eq_none_iff, List.mem_map]
  constructor
  · rintro h ⟨field, hfield, rfl⟩
    simpa using h field hfield
  · intro h field hfield
    simpa using fun heq => h ⟨field, hfield, heq.symm⟩

theorem checkPlaced_of_get? {callee : Text} {placed : List Text}
    (h : ∀ name ∈ placed, fields.get? name = none) : fields.checkPlaced callee placed = .ok () := by
  have hfind : fields.find? (fun field => field.1 ∈ placed) = none := by
    refine List.find?_eq_none.2 fun field hfield hplaced => ?_
    exact get?_eq_none_iff.1 (h _ (of_decide_eq_true hplaced)) (List.mem_map_of_mem hfield)
  rw [checkPlaced, hfind]

end Arguments

/-! ## Lines -/

namespace Human

/-- The fields that lines show. -/
def shownNames : List Text := [
  "path", "entries", "locale", "asset", "nuggets", "translated", "key", "assets", "rewritten",
  "warnings"]

/-- **A line shows the fields that lines show**, and no other makes a difference. -/
theorem line?_congr (h : ∀ name ∈ shownNames, told.get? name = fields.get? name) (event : Text) :
    line? event told = line? event fields := by
  have hlookup : ∀ name ∈ shownNames, told.lookup name = fields.lookup name := h
  simp (disch := decide) only [line?, hlookup]

/-- The line of an event with its end, if there is a line. -/
def lineWithEnd (event : Text) (fields : Arguments) : Text :=
  match line? event fields with
  | some line => line ++ "\n"
  | none => []

end Human

/-! ## Calls -/

/-- The names by which calls that fields are passed on to know their other arguments. -/
def placedNames : List Text := ["event", "self", "level", "method_name"]

/-- Fields that can be logged with an event and with a message. -/
structure Loggable (fields : Arguments) : Prop where
  /-- No message has such a field of its own. -/
  free : ∀ name ∈ fields.map Prod.fst, name ∉ Logger.reservedNames
  /-- No call has an argument of such a name. -/
  unplaced : ∀ name ∈ fields.map Prod.fst, name ∉ placedNames

namespace Loggable

theorem get?_eq_none (h : Loggable fields) (hname : name ∈ placedNames) :
    fields.get? name = none :=
  Arguments.get?_eq_none_iff.2 fun hmem => h.unplaced name hmem hname

theorem checkPlaced (h : Loggable fields) {callee : Text} {placed : List Text}
    (hplaced : placed ⊆ placedNames) : fields.checkPlaced callee placed = .ok () :=
  Arguments.checkPlaced_of_get? fun _ hname => h.get?_eq_none (hplaced hname)

/-- An event is logged at a level that has a name. -/
theorem event_eq (h : Loggable fields) (l : Logger) (level : Int) (v : Value) :
    l.event level v fields =
      if (Level.names.lookup level).isNone then .error (.unknownLevel level)
      else .ok (l.record? level (.event v fields)) := by
  rw [Logger.event, h.checkPlaced (by decide), h.checkPlaced (by decide)]
  rfl

/-- A message is logged at any level. -/
theorem message_eq (h : Loggable fields) (l : Logger) (level : Int) (v : Value)
    (args : List Value) :
    l.message level v args fields = .ok (l.record? level (.message v args fields)) := by
  have hfree : fields.find? (fun field => field.1 ∈ Logger.reservedNames) = none := by
    simpa [List.find?_eq_none] using h.free
  rw [Logger.message]
  cases hrecord : l.record? level (.message v args fields) with
  | none => rfl
  | some record => rw [hfree]

end Loggable

/-! ## Records -/

/-- What may be known of a run: nothing yet, or its locale and its catalog. -/
def OfRun (context : Arguments) : Prop :=
  context = [] ∨ ∃ locale catalog, context = Sinks.runContext locale catalog

theorem OfRun.get?_eq_none (h : OfRun context)
    (hname : name ∉ (["run_locale", "run_catalog"] : List Text)) : context.get? name = none := by
  refine Arguments.get?_eq_none_iff.2 ?_
  rcases h with rfl | ⟨locale, catalog, rfl⟩
  · exact List.not_mem_nil
  · exact hname

namespace Record

/-- For people, a record is about an event, and the fields that lines show are these. -/
def Shows (r : Record) (context : Arguments) (time event : Text) (fields : Arguments) : Prop :=
  ∃ told, r.asEvent? context time = some (event, told) ∧
    (∀ name ∈ (["self", "event"] : List Text), told.get? name = none) ∧
    ∀ name ∈ Human.shownNames, told.get? name = fields.get? name

variable {r : Record}

theorem get?_takeEvent (told : Arguments) (name : Text) :
    Arguments.get? (takeEvent told).2 name
      = if name = "event" then none else told.get? name := by
  refine (lookup_filter_key (fun n => n ≠ ("event" : Text)) told name).trans ?_
  by_cases h : name = "event" <;> simp [h, Arguments.get?]

theorem get?_ownFields (fields : Arguments) (name : Text) :
    Arguments.get? (ownFields fields) name = if isOwn name then fields.get? name else none :=
  lookup_filter_key isOwn fields name

/-- What comes with an event beside its fields is in no line. -/
theorem shows_of_event (h : r.content = .event (.text event) fields) (hfields : Loggable fields)
    (hcontext : OfRun context) (time : Text) : r.Shows context time event fields := by
  obtain ⟨entry, hentry, hevent, hget⟩ := exists_entry?_of_event h context time
  have hname : (takeEvent entry).1 = event := by
    rw [takeEvent, hevent]
    rfl
  refine ⟨(takeEvent entry).2, ?_, fun name hmem => ?_, fun name hmem => ?_⟩
  · rw [asEvent?, h]
    dsimp only
    rw [hentry, Option.map_some, ← hname]
  · rw [get?_takeEvent]
    split
    · rfl
    · have hself : name ∈ placedNames ∧ (name = "event" ∨ name ∉ commonNames) ∧
          name ∉ (["run_locale", "run_catalog"] : List Text) := by
        revert name
        decide
      rw [hget name (hself.2.1.resolve_left ‹_›), hfields.get?_eq_none hself.1, ite_self,
        hcontext.get?_eq_none hself.2.2, Option.none_or]
  · have hother : name ≠ "event" ∧ name ∉ commonNames ∧ name ∉ askingNames ∧
        name ∉ (["run_locale", "run_catalog"] : List Text) := by
      revert name
      decide
    rw [get?_takeEvent, if_neg hother.1, hget _ hother.2.1, if_neg hother.2.2.1,
      hcontext.get?_eq_none hother.2.2.2, Option.or_none]

/-- What every message has is in no line, and no field of a line is taken for it. -/
theorem shows_of_message (h : r.content = .message (.text event) [] fields)
    (hfields : Loggable fields) (context : Arguments) (time : Text) :
    r.Shows context time event fields := by
  refine ⟨ownFields fields, ?_, fun name hmem => ?_, fun name hmem => ?_⟩
  · rw [asEvent?, h]
    dsimp only
    rw [hfields.get?_eq_none (by decide)]
    rfl
  · have hplaced : name ∈ placedNames := by
      revert name
      decide
    rw [get?_ownFields, hfields.get?_eq_none hplaced, ite_self]
  · have hown : isOwn name := by
      revert name
      decide
    rw [get?_ownFields, if_pos hown]

end Record

namespace Sinks

theorem humanLine_of_shows {r : Record} (h : r.Shows context time event fields) :
    humanLine r context time = Human.lineWithEnd event fields := by
  obtain ⟨told, hevent, hself, hshown⟩ := h
  have hformat : Human.format event told = .ok (Human.line? event told) := by
    rw [Human.format, Arguments.checkPlaced_of_get? hself]
    rfl
  rw [humanLine, hevent, Human.lineWithEnd, ← Human.line?_congr hshown]
  dsimp only
  rw [hformat]
  cases Human.line? event told <;> rfl

/-- The sinks of a run that has people to tell and nothing else. -/
def toPeople (context : Arguments) : Sinks := { human := true, context }

theorem write_toPeople (context : Arguments) (time : Text) (r : Record) :
    ((toPeople context).write time r).1
      = if r.level = Level.human then humanLine r context time else [] := by
  rw [write]
  cases hentry : r.entry? (toPeople context).context time <;> simp [toPeople]

/-- What people see of a call, if it is not refused. -/
def seen (context : Arguments) (time : Text) (call : Except CallError (Option Record)) :
    Except CallError Text :=
  call.map fun record => record.elim [] fun r => ((toPeople context).write time r).1

theorem seen_record? (l : Logger) (content : Content) (context : Arguments) (time : Text) :
    seen context time (.ok (l.record? level content)) =
      .ok (if l.listens level ∧ level = Level.human then
        humanLine ⟨l.name, level, content⟩ context time else []) := by
  rw [seen, Logger.record?, Except.map]
  by_cases hlistens : l.listens level
  · rw [if_pos hlistens, Option.elim_some, write_toPeople]
    simp [hlistens]
  · simp [hlistens]

/-- **People see the same of an event and of a message** that has its name for its text and carries
its fields: at the level at which they are told of events the line of the event, and nothing at any
other. -/
theorem seen_of_event_and_message (h : Loggable fields) (hcontext : OfRun context) (l : Logger)
    (time event : Text) :
    (∃ text, seen context time (l.event Level.human (.text event) fields) = .ok text ∧
      seen context time (l.message Level.human (.text event) [] fields) = .ok text ∧
      text = if l.listens Level.human then Human.lineWithEnd event fields else []) ∧
    ∀ level ≠ Level.human,
      seen context time (l.message level (.text event) [] fields) = .ok [] ∧
      seen context time (l.event level (.text event) fields) =
        if (Level.names.lookup level).isNone then .error (.unknownLevel level) else .ok [] := by
  refine ⟨⟨_, ?_, ?_, rfl⟩, fun level hlevel => ⟨?_, ?_⟩⟩
  · rw [h.event_eq, if_neg (by decide), seen_record?,
      humanLine_of_shows (Record.shows_of_event rfl h hcontext time)]
    simp
  · rw [h.message_eq, seen_record?, humanLine_of_shows (Record.shows_of_message rfl h context time)]
    simp
  · rw [h.message_eq, seen_record?, if_neg fun hboth => hlevel hboth.2]
  · rw [h.event_eq]
    split
    · rfl
    · rw [seen_record?, if_neg fun hboth => hlevel hboth.2]

/-- A run that knows its locale does not tell it in the place of the one that an event lacks, and a
field that no line shows is in none. -/
theorem seen_of_event_and_message_missing :
    let fields : Arguments := [("key", .text "Page\nnot found"), ("asset", .null), ("depth", .int 2)]
    let context := Sinks.runContext "fr" none
    let line : Text := "  ⚠ Missing translation in None: 'Page\\nnot found' (?)\n"
    Loggable fields ∧ OfRun context ∧
      ∀ time,
        seen context time (Logger.event ⟨"app", 0⟩ 25 (.text "translation.missing") fields)
          = .ok line ∧
        seen context time (Logger.message ⟨"app", 0⟩ 25 (.text "translation.missing") [] fields)
          = .ok line ∧
        seen context time (Logger.event ⟨"app", 0⟩ 30 (.text "translation.missing") fields)
          = .ok [] := by
  intro fields context line
  have hfields : Loggable fields := ⟨by decide, by decide⟩
  have hcontext : OfRun context := Or.inr ⟨"fr", none, rfl⟩
  refine ⟨hfields, hcontext, fun time => ?_⟩
  obtain ⟨⟨text, hevent, hmessage, htext⟩, hother⟩ := seen_of_event_and_message hfields hcontext
    ⟨"app", 0⟩ time "translation.missing"
  obtain rfl : text = line := htext.trans (by decide +kernel)
  exact ⟨hevent, hmessage, (hother 30 (by decide)).2⟩

end Sinks

end Localize
