import Localize.Log.Sinks
import Localize.Proofs.Lookup

/-!
# What an entry tells of the run

What is written of a record is its entry, and what is known of the run comes into it last: a field
of the run is there unless the record has one of that name itself (`get?_foldl_supply`).  So the
line of an event in the log file tells all that is known of the run, if the fields of the event have
other names (`writes_tells`), and where nothing is known of the run it tells nothing of it
(`writes_hides`).
-/

set_option autoImplicit false

namespace Localize

variable {fields context entry : Arguments} {name other : Text} {v : Value}

namespace Arguments

/-- The entry tells these fields. -/
def Tells (entry known : Arguments) : Prop :=
  ∀ field ∈ known, entry.get? field.1 = some field.2

/-- The entry tells none of these fields. -/
def Hides (entry known : Arguments) : Prop :=
  ∀ field ∈ known, entry.get? field.1 = none

theorem get?_cons (name : Text) (v : Value) (fields : Arguments) (other : Text) :
    get? ((name, v) :: fields) other
      = if other = name then some v else fields.get? other := by
  rw [get?, List.lookup_cons]
  by_cases h : other = name
  · rw [if_pos h, beq_iff_eq.2 h]
  · rw [if_neg h, beq_eq_false_iff_ne.2 h]
    rfl

end Arguments

namespace Record

open Arguments

/-- A field that is assigned is found. -/
theorem get?_assign (name : Text) (v : Value) (fields : Arguments) (other : Text) :
    Arguments.get? (assign name v fields) other
      = if other = name then some v else fields.get? other := by
  induction fields with
  | nil => exact get?_cons name v [] other
  | cons field fields ih =>
    obtain ⟨n, w⟩ := field
    rw [assign]
    split
    · rename_i h
      subst h
      rw [get?_cons, get?_cons]
      split <;> rfl
    · rename_i h
      rw [get?_cons, get?_cons, ih]
      by_cases hother : other = n
      · rw [if_pos hother, if_neg fun heq => h (hother.symm.trans heq), if_pos hother]
      · rw [if_neg hother, if_neg hother]

/-- A field that is supplied is found, unless there is one of its name. -/
theorem get?_supply (fields : Arguments) (name : Text) (v : Value) (other : Text) :
    Arguments.get? (supply fields (name, v)) other
      = (fields.get? other).or (if other = name then some v else none) := by
  rw [supply]
  split
  · rename_i h
    by_cases hother : other = name
    · rw [hother]
      obtain ⟨w, hw⟩ := Option.isSome_iff_exists.1 h
      rw [hw]
      rfl
    · rw [if_neg hother, Option.or_none]
  · rw [get?, List.lookup_append]
    exact congrArg _ (get?_cons name v [] other)

/-- **What is supplied comes after what is there.** -/
theorem get?_foldl_supply (fields context : Arguments) (name : Text) :
    Arguments.get? (context.foldl supply fields) name
      = (fields.get? name).or (context.get? name) := by
  induction context generalizing fields with
  | nil => exact (Option.or_none).symm
  | cons field context ih =>
    obtain ⟨n, v⟩ := field
    rw [List.foldl_cons, ih, get?_supply, get?_cons, Option.or_assoc]
    split <;> rfl

/-! ## Entries of events -/

/-- The fields that every entry has. -/
def commonNames : List Text := ["event", "level", "logger", "timestamp"]

/-- The fields that ask for a stack or an exception.  They are not told. -/
def askingNames : List Text := ["stack_info", "exc_info"]

/-- **The fields of the entry of an event** are its own, and then those of the run. -/
theorem exists_entry?_of_event {x : Record} {event : Value} (h : x.content = .event event fields)
    (context : Arguments) (time : Text) :
    ∃ entry, x.entry? context time = some entry ∧ Arguments.get? entry "event" = some event ∧
      ∀ name, name ∉ commonNames → Arguments.get? entry name
        = (if name ∈ askingNames then none else fields.get? name).or (context.get? name) := by
  let kept : Arguments := fields.filter fun field => field.1 ∉ askingNames
  have hkept : ∀ name, kept.get? name
      = if name ∈ askingNames then none else fields.get? name := by
    intro name
    refine (lookup_filter_key (fun n => n ∉ askingNames) fields name).trans ?_
    by_cases hname : name ∈ askingNames <;> simp [hname, get?]
  have hentry : x.entry? context time = some (assign "timestamp" (.text time)
      (assign "logger" (.text x.logger) (assign "level" (.text (Level.shown x.level))
        (context.foldl supply (assign "event" event kept))))) := by
    obtain ⟨logger, level, content⟩ := x
    obtain rfl : content = .event event fields := h
    rfl
  refine ⟨_, hentry, ?_, fun name hname => ?_⟩
  · rw [get?_assign, if_neg (by decide), get?_assign, if_neg (by decide), get?_assign,
      if_neg (by decide), get?_foldl_supply, get?_assign, if_pos rfl, Option.some_or]
  · simp only [commonNames, List.mem_cons, List.not_mem_nil, or_false, not_or] at hname
    obtain ⟨hevent, hlevel, hlogger, htime⟩ := hname
    rw [get?_assign, if_neg htime, get?_assign, if_neg hlogger, get?_assign, if_neg hlevel,
      get?_foldl_supply, get?_assign, if_neg hevent, hkept]

end Record

/-! ## Lines of events -/

namespace Sinks

open Arguments

/-- The fields of an entry that are not those of an event or of the run. -/
def otherNames : List Text := Record.commonNames ++ (["_record", "_from_structlog"] : List Text)

/-- The names of these fields stand for nothing else in the line of an event. -/
def Leaves (fields known : Arguments) : Prop :=
  ∀ name ∈ known.map Prod.fst, name ∉ otherNames ∧ fields.get? name = none

/-- The record is written to the log file, and the fields that are written are such. -/
def Writes (s : Sinks) (time : Text) (x : Record) (such : Arguments → Prop) : Prop :=
  ∃ entry, x.entry? s.context time = some entry ∧
    (s.write time x).2 = some (fileLine entry) ∧ such (laidOut entry)

theorem get?_laidOut (entry : Arguments) (h : name ∉ otherNames) :
    (laidOut entry).get? name = entry.get? name := by
  refine (lookup_filter_key (fun n => n ∉ (["_record", "_from_structlog"] : List Text)) entry
    name).trans (if_pos ?_)
  rw [decide_eq_true_iff]
  exact fun hpassed => h (List.mem_append_right _ hpassed)

variable {s : Sinks} {x : Record} {event : Value} {known : Arguments} {such : Arguments → Prop}

/-- **The line of an event in the log file**: a name that stands for nothing else in it stands for
what is known of the run. -/
theorem writes_of_event (h : x.content = .event event fields) (hfile : s.file.isSome)
    (hlevel : Level.debug ≤ x.level) (time : Text) :
    s.Writes time x fun told => ∀ name, name ∉ otherNames → fields.get? name = none →
      told.get? name = s.context.get? name := by
  obtain ⟨entry, hentry, -, hget⟩ := Record.exists_entry?_of_event h s.context time
  refine ⟨entry, hentry, ?_, fun name hname hfield => ?_⟩
  · rw [write, hentry]
    exact if_pos ⟨hfile, hlevel⟩
  · rw [get?_laidOut entry hname, hget name fun hcommon => hname (List.mem_append_left _ hcommon),
      hfield, ite_self, Option.none_or]

/-- **An event tells what is known of the run.** -/
theorem writes_tells (h : x.content = .event event fields) (hfile : s.file.isSome)
    (hlevel : Level.debug ≤ x.level) (hnodup : (s.context.map Prod.fst).Nodup)
    (hleaves : Leaves fields s.context) (time : Text) :
    s.Writes time x (Tells · s.context) := by
  obtain ⟨entry, hentry, hline, hget⟩ := writes_of_event h hfile hlevel time
  refine ⟨entry, hentry, hline, fun field hfield => ?_⟩
  obtain ⟨hother, hown⟩ := hleaves _ (List.mem_map_of_mem hfield)
  rw [hget _ hother hown]
  exact lookup_of_mem hnodup hfield

/-- **Where nothing is known of the run, an event tells nothing of it.** -/
theorem writes_hides (h : x.content = .event event fields) (hfile : s.file.isSome)
    (hlevel : Level.debug ≤ x.level) (hcontext : s.context = []) (hleaves : Leaves fields known)
    (time : Text) : s.Writes time x (Hides · known) := by
  obtain ⟨entry, hentry, hline, hget⟩ := writes_of_event h hfile hlevel time
  refine ⟨entry, hentry, hline, fun field hfield => ?_⟩
  obtain ⟨hother, hown⟩ := hleaves _ (List.mem_map_of_mem hfield)
  rw [hget _ hother hown, hcontext]
  rfl

/-- What is told is not hidden. -/
theorem not_writes_hides_of_tells {time : Text} (htells : s.Writes time x (Tells · known))
    (hknown : known ≠ []) : ¬ s.Writes time x (Hides · known) := by
  rintro ⟨entry, hentry, -, hhides⟩
  obtain ⟨entry', hentry', -, htells⟩ := htells
  obtain rfl := Option.some.inj (hentry.symm.trans hentry')
  obtain ⟨field, hfield⟩ := List.exists_mem_of_ne_nil known hknown
  cases (htells field hfield).symm.trans (hhides field hfield)

end Sinks
end Localize
