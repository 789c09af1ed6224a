import Localize.Proofs.Json.Numerals
import Localize.Proofs.Json.Strings

/-!
# What is written reads back

A value that is written with its items and members on lines of their own says what the value is
(`Node.ofValue`): the numbers as they are written, and as a string whatever else is no list and no
mapping.  The reader finds just that in it (`node?_pretty`), at any depth and with anything behind it
that does not go on with a number (`nodeTail_prettyAt`).

The reader goes no deeper than the text is long, so the length of the text is fuel enough.
-/

set_option autoImplicit false

namespace Localize
namespace Json

variable {t rest : Text} {c : CodePoint} {v : Value} {fuel depth : Nat}

namespace Node

/-- The name that a member of an object has. -/
def memberName : Value → Text
  | .text t => t
  | k => scalar false k

mutual

/-- What is said of a value. -/
def ofValue : Value → Node
  | .null => .null
  | .bool b => .bool b
  | .int i => .number (Text.ofInt i)
  | .float x => .number (Json.number x)
  | .text t => .string t
  | .date d => .string d.iso
  | .moment m => .string (m.iso " ")
  | .list items => .array (ofItems items)
  | .map entries => .object (ofEntries entries)
  | v => .string v.shown

/-- What is said of values. -/
def ofItems : List Value → List Node
  | [] => []
  | v :: rest => ofValue v :: ofItems rest

/-- What is said of entries. -/
def ofEntries : List (Value × Value) → List (Text × Node)
  | [] => []
  | (k, v) :: rest => (memberName k, ofValue v) :: ofEntries rest

end

/-- What is said of a mapping given by fields, field by field. -/
def ofFields (fields : List (Text × Value)) : Node :=
  .object (fields.map fun (name, v) => (name, ofValue v))

theorem ofValue_ofFields (fields : List (Text × Value)) :
    ofValue (Value.ofFields fields) = ofFields fields := by
  rw [Value.ofFields, ofValue, ofFields]
  congr 1
  induction fields with
  | nil => rfl
  | cons field fields ih => exact congrArg (_ :: ·) ih

theorem ofItems_eq_map (items : List Value) : ofItems items = items.map ofValue := by
  induction items with
  | nil => rfl
  | cons v items ih => exact congrArg (ofValue v :: ·) ih

end Node

/-! ## White space -/

/-- There is white space in a text and nothing else. -/
def Space (t : Text) : Prop := ∀ c ∈ t, isSpace c = true

theorem space_newline (depth : Nat) : Space (newline depth) := by
  intro c hc
  rcases List.mem_cons.1 hc with rfl | hc
  · rfl
  · rw [List.eq_of_mem_replicate hc]
    rfl

theorem space_blank : Space " " := by
  intro c hc
  obtain rfl := List.mem_singleton.1 hc
  rfl

theorem space_takeWhile (t : Text) : Space (t.takeWhile isSpace) :=
  List.all_eq_true.1 List.all_takeWhile

variable {space : Text}

theorem skipSpace_append (h : Space space) (t : Text) : skipSpace (space ++ t) = skipSpace t :=
  List.dropWhile_append_of_pos h

theorem skipSpace_cons (hc : isSpace c = false) (t : Text) : skipSpace (c :: t) = c :: t :=
  List.dropWhile_cons_of_neg (Bool.eq_false_iff.1 hc)

theorem nodeTail_space (h : Space space) (fuel : Nat) (t : Text) :
    nodeTail fuel (space ++ t) = nodeTail fuel t := by
  cases fuel with
  | zero => rfl
  | succ fuel => rw [nodeTail, nodeTail, skipSpace_append h]

theorem itemsTail_space (h : Space space) (fuel : Nat) (t : Text) :
    itemsTail fuel (space ++ t) = itemsTail fuel t := by
  cases fuel with
  | zero => rfl
  | succ fuel => rw [itemsTail, itemsTail, nodeTail_space h]

theorem membersTail_space (h : Space space) (fuel : Nat) (t : Text) :
    membersTail fuel (space ++ t) = membersTail fuel t := by
  cases fuel with
  | zero => rfl
  | succ fuel => rw [membersTail, membersTail, skipSpace_append h]

/-! ## Steps of the reader -/

theorem nodeTail_quote (fuel : Nat) (t : Text) : nodeTail (fuel + 1) (0x22 :: t)
    = (stringTail t.length t).map fun (s, rest) => (.string s, rest) := by
  rw [nodeTail, skipSpace_cons (by rfl)]
  show (stringTail t.length t).bind _ = _
  cases stringTail t.length t <;> rfl

theorem nodeTail_bare (h : ∀ c ∈ t.head?, isSpace c = false ∧ c ≠ 0x22 ∧ c ≠ 0x5B ∧ c ≠ 0x7B)
    (fuel : Nat) : nodeTail (fuel + 1) t = bare? t := by
  cases t with
  | nil => rfl
  | cons c t =>
    obtain ⟨hspace, hquote, hbracket, hbrace⟩ := h c rfl
    rw [nodeTail, skipSpace_cons hspace]
    split
    · rename_i heq
      exact absurd (List.cons.inj heq).1 hquote
    · rename_i heq
      exact absurd (List.cons.inj heq).1 hbracket
    · rename_i heq
      exact absurd (List.cons.inj heq).1 hbrace
    · rfl

/-- White space before the items makes no difference, and no bracket closes before the first. -/
theorem nodeTail_bracket {items : List Node} (h : itemsTail fuel t = some (items, rest)) :
    nodeTail (fuel + 1) (0x5B :: t) = some (.array items, rest) := by
  have hskip : itemsTail fuel (skipSpace t) = some (items, rest) := by
    rw [← itemsTail_space (space_takeWhile t), skipSpace, List.takeWhile_append_dropWhile, h]
  rw [nodeTail, skipSpace_cons (by rfl)]
  split
  case h_2 heq =>
    obtain rfl := (List.cons.inj heq).2
    split
    · rename_i hclosed
      rw [hclosed] at hskip
      cases fuel with
      | zero => cases hskip
      | succ fuel => cases fuel <;> cases hskip
    · rw [hskip]
      rfl
  case h_4 hopen _ => exact absurd rfl (hopen t)
  all_goals exact absurd (List.cons.inj ‹_›).1 (by decide)

/-- White space before the members makes no difference, and no brace closes before the first. -/
theorem nodeTail_brace {members : List (Text × Node)}
    (h : membersTail fuel t = some (members, rest)) :
    nodeTail (fuel + 1) (0x7B :: t) = some (.object members, rest) := by
  have hskip : membersTail fuel (skipSpace t) = some (members, rest) := by
    rw [← membersTail_space (space_takeWhile t), skipSpace, List.takeWhile_append_dropWhile, h]
  rw [nodeTail, skipSpace_cons (by rfl)]
  split
  case h_3 heq =>
    obtain rfl := (List.cons.inj heq).2
    split
    · rename_i hclosed
      rw [hclosed] at hskip
      cases fuel <;> cases hskip
    · rw [hskip]
      rfl
  case h_4 hopen => exact absurd rfl (hopen t)
  all_goals exact absurd (List.cons.inj ‹_›).1 (by decide)

/-- An item and a comma, with more items behind it. -/
theorem itemsTail_comma {v : Node} {u : Text} (h : nodeTail fuel t = some (v, 0x2C :: u)) :
    itemsTail (fuel + 1) t
      = (itemsTail fuel u).map fun (items, rest) => (v :: items, rest) := by
  rw [itemsTail, h]
  show (itemsTail fuel u).bind _ = _
  cases itemsTail fuel u <;> rfl

/-- The last item, and the bracket behind it. -/
theorem itemsTail_last {v : Node} {u : Text} (h : nodeTail fuel t = some (v, u))
    (hu : skipSpace u = 0x5D :: rest) : itemsTail (fuel + 1) t = some ([v], rest) := by
  rw [itemsTail, h, Option.bind_eq_bind, Option.bind_some]
  dsimp only
  rw [hu]
  rfl

/-- A member and a comma, with more members behind it. -/
theorem membersTail_comma {k u w : Text} {v : Node}
    (hk : stringTail t.length t = some (k, 0x3A :: u)) (hv : nodeTail fuel u = some (v, 0x2C :: w)) :
    membersTail (fuel + 1) (0x22 :: t)
      = (membersTail fuel w).map fun (members, rest) => ((k, v) :: members, rest) := by
  rw [membersTail, skipSpace_cons (by rfl)]
  show (stringTail t.length t).bind _ = _
  rw [hk]
  show (nodeTail fuel u).bind _ = _
  rw [hv]
  show (membersTail fuel w).bind _ = _
  cases membersTail fuel w <;> rfl

/-- The last member, and the brace behind it. -/
theorem membersTail_last {k u w : Text} {v : Node}
    (hk : stringTail t.length t = some (k, 0x3A :: u)) (hv : nodeTail fuel u = some (v, w))
    (hw : skipSpace w = 0x7D :: rest) :
    membersTail (fuel + 1) (0x22 :: t) = some ([(k, v)], rest) := by
  rw [membersTail, skipSpace_cons (by rfl)]
  show (stringTail t.length t).bind _ = _
  rw [hk]
  show (nodeTail fuel u).bind _ = _
  rw [hv, Option.bind_some]
  dsimp only
  rw [hw]
  rfl

/-! ## What stands alone -/

/-- No word starts like a number. -/
theorem after?_word (t : Text) {d : CodePoint} (hd : d.isDigit = true) :
    ∀ e ∈ words, Text.after? e.1 (d :: t) = none ∧
      Text.after? e.1 (CodePoint.ofChar '-' :: d :: t) = none := by
  have hfirst : ∀ e ∈ words, ∃ c more, e.1 = c :: more ∧ c.isDigit = false ∧
      (c = CodePoint.ofChar '-' → ∃ c' more', more = c' :: more' ∧ c'.isDigit = false) := by
    intro e he
    simp only [words, List.mem_cons, List.not_mem_nil, or_false] at he
    rcases he with rfl | rfl | rfl | rfl | rfl | rfl
    all_goals exact ⟨_, _, rfl, rfl, fun _ => ⟨_, _, rfl, rfl⟩⟩
  intro e he
  obtain ⟨c, more, hword, hc, hminus⟩ := hfirst e he
  rw [hword]
  refine ⟨Text.after?_of_digit hc hd more t, ?_⟩
  rw [Text.after?]
  split
  · obtain ⟨c', more', rfl, hc'⟩ := hminus ‹_›
    exact Text.after?_of_digit hc' hd more' t
  · rfl

theorem bare?_numeral (ht : IsNumeral t) (hrest : Ends rest) :
    bare? (t ++ rest) = some (.number t, rest) := by
  obtain ⟨n, hn, rfl⟩ := ht
  obtain ⟨d, ds, hds⟩ := List.exists_cons_of_ne_nil hn.nonempty
  have hd : d.isDigit = true := hn.whole d (hds ▸ List.mem_cons_self)
  have hwords : ∀ e ∈ words, Text.after? e.1 (n.text ++ rest) = none := by
    intro e he
    rw [Numeral.text_eq, hds]
    cases n.negative with
    | false => exact (after?_word _ hd e he).1
    | true => exact (after?_word _ hd e he).2
  rw [bare?, numeral?_text_append hn hrest, List.findSome?_eq_none_iff.2 fun e he =>
    congrArg (Option.map _) (hwords e he)]
  rfl

/-- A string has been opened, and is read with what closes it. -/
theorem stringTail_string (t rest : Text) :
    ∃ u, string false t ++ rest = 0x22 :: u ∧ stringTail u.length u = some (t, rest) := by
  have hlength := length_le_length_flatMap t
  refine ⟨t.flatMap (stringOne false) ++ 0x22 :: rest, ?_, stringTail_flatMap ?_ rest⟩
  · rw [string, List.append_assoc, List.append_assoc]
    rfl
  · rw [List.length_append, List.length_cons]
    omega

theorem nodeTail_string (t : Text) (fuel : Nat) (rest : Text) :
    nodeTail (fuel + 1) (string false t ++ rest) = some (.string t, rest) := by
  obtain ⟨u, hu, hread⟩ := stringTail_string t rest
  rw [hu, nodeTail_quote, hread]
  rfl

theorem nodeTail_word {word : Text} {node : Node} (h : (word, node) ∈ words) (fuel : Nat)
    (rest : Text) : nodeTail (fuel + 1) (word ++ rest) = some (node, rest) := by
  simp only [words, List.mem_cons, List.not_mem_nil, or_false, Prod.mk.injEq] at h
  rcases h with ⟨rfl, rfl⟩ | ⟨rfl, rfl⟩ | ⟨rfl, rfl⟩ | ⟨rfl, rfl⟩ | ⟨rfl, rfl⟩ | ⟨rfl, rfl⟩
  all_goals
    rw [nodeTail_bare]
    · rfl
    · intro c hc
      obtain rfl := Option.some.inj hc
      decide

theorem IsNumeral.exists_cons (h : IsNumeral t) :
    ∃ c u, t = c :: u ∧ (c.isDigit = true ∨ c = CodePoint.ofChar '-') := by
  obtain ⟨n, hn, rfl⟩ := h
  obtain ⟨d, ds, hds⟩ := List.exists_cons_of_ne_nil hn.nonempty
  rw [Numeral.text_eq, hds]
  cases n.negative with
  | false => exact ⟨_, _, rfl, Or.inl (hn.whole d (hds ▸ List.mem_cons_self))⟩
  | true => exact ⟨_, _, rfl, Or.inr rfl⟩

theorem begins_of_numeral (hc : c.isDigit = true ∨ c = CodePoint.ofChar '-') :
    isSpace c = false ∧ c ≠ 0x5D := by
  rcases hc with hc | rfl
  · have hrange := Text.isDigit_iff.1 hc
    constructor
    · simp only [isSpace, Bool.or_eq_false_iff, decide_eq_false_iff_not]
      omega
    · rintro rfl
      revert hc
      decide
  · decide

theorem nodeTail_numeral (ht : IsNumeral t) (fuel : Nat) (hrest : Ends rest) :
    nodeTail (fuel + 1) (t ++ rest) = some (.number t, rest) := by
  rw [nodeTail_bare, bare?_numeral ht hrest]
  obtain ⟨c, u, rfl, hc⟩ := ht.exists_cons
  intro d hd
  obtain rfl := Option.some.inj hd
  exact ⟨(begins_of_numeral hc).1, by rintro rfl; revert hc; decide,
    by rintro rfl; revert hc; decide, by rintro rfl; revert hc; decide⟩

/-! ## What has others inside -/

/-- What stands behind an item or a member does not go on with a number. -/
theorem ends_newline (depth : Nat) (t : Text) : Ends (newline depth ++ t) := by
  intro c hc
  obtain rfl := Option.some.inj hc
  decide

theorem ends_comma (t : Text) : Ends (0x2C :: t) := by
  intro c hc
  obtain rfl := Option.some.inj hc
  decide

/-- The value reads back at a depth. -/
def ReadsBack (depth : Nat) (v : Value) : Prop :=
  ∀ fuel rest, (prettyAt depth v).length < fuel → Ends rest →
    nodeTail fuel (prettyAt depth v ++ rest) = some (Node.ofValue v, rest)

/-- **What is neither a list nor a mapping reads back.** -/
theorem readsBack_scalar (hlist : ∀ items, v ≠ .list items) (hmap : ∀ entries, v ≠ .map entries) :
    ReadsBack depth v := by
  intro fuel rest hfuel hrest
  obtain ⟨fuel, rfl⟩ := Nat.exists_eq_succ_of_ne_zero (Nat.ne_zero_of_lt hfuel)
  cases v with
  | null => exact nodeTail_word (by simp [words, prettyAt, scalar, Node.ofValue]) fuel rest
  | bool b =>
    cases b
    all_goals exact nodeTail_word (by simp [words, prettyAt, scalar, Node.ofValue]) fuel rest
  | int i => exact nodeTail_numeral (isNumeral_ofInt i) fuel hrest
  | float x =>
    cases x with
    | finite negative mantissa exponent =>
      exact nodeTail_numeral (Binary64.isNumeral_toText negative mantissa exponent) fuel hrest
    | nan => exact nodeTail_word (by simp [words, prettyAt, scalar, Node.ofValue, number]) fuel rest
    | infinite negative =>
      cases negative
      all_goals
        exact nodeTail_word (by simp [words, prettyAt, scalar, Node.ofValue, number]) fuel rest
  | text t => exact nodeTail_string t fuel rest
  | list items => exact absurd rfl (hlist items)
  | map entries => exact absurd rfl (hmap entries)
  | date d => exact nodeTail_string d.iso fuel rest
  | moment m => exact nodeTail_string (m.iso " ") fuel rest
  | bytes bs => exact nodeTail_string _ fuel rest
  | set items => exact nodeTail_string _ fuel rest
  | pair first second => exact nodeTail_string _ fuel rest
  | loop id whole => exact nodeTail_string _ fuel rest
  | again id isMap => exact nodeTail_string _ fuel rest

/-- What stands between items and between members. -/
def separator (depth : Nat) : Text := "," ++ newline depth

theorem length_separator (depth : Nat) : 0 < (separator depth).length := Nat.succ_pos _

theorem separator_append (depth : Nat) (t : Text) :
    separator depth ++ t = 0x2C :: (newline depth ++ t) := rfl

/-- **Items read back if each of them does.** -/
theorem itemsTail_prettyItems {items : List Value} (h : ∀ v ∈ items, ReadsBack depth v)
    (hne : items ≠ []) (outer : Nat) (rest : Text)
    (hfuel : (Text.join (separator depth) (prettyItems depth items)).length + 1 < fuel) :
    itemsTail fuel (Text.join (separator depth) (prettyItems depth items)
      ++ (newline outer ++ 0x5D :: rest)) = some (Node.ofItems items, rest) := by
  induction items generalizing fuel with
  | nil => exact absurd rfl hne
  | cons v items ih =>
    obtain ⟨fuel, rfl⟩ := Nat.exists_eq_succ_of_ne_zero (Nat.ne_zero_of_lt hfuel)
    have hv := h v List.mem_cons_self
    cases items with
    | nil =>
      refine itemsTail_last (hv fuel _ (Nat.lt_of_succ_lt_succ hfuel) (ends_newline outer _)) ?_
      rw [skipSpace_append (space_newline outer), skipSpace_cons (by rfl)]
    | cons w items =>
      have hjoin : Text.join (separator depth) (prettyItems depth (v :: w :: items))
          = prettyAt depth v ++ separator depth
            ++ Text.join (separator depth) (prettyItems depth (w :: items)) := rfl
      have hpos := length_separator depth
      rw [hjoin, List.length_append, List.length_append] at hfuel
      rw [hjoin, List.append_assoc, List.append_assoc, separator_append]
      refine (itemsTail_comma (hv fuel _ (by omega) (ends_comma _))).trans ?_
      rw [itemsTail_space (space_newline depth),
        ih (fun v hv => h v (List.mem_cons_of_mem _ hv)) (List.cons_ne_nil w items) (by omega)]
      rfl

/-- The name of a member is read, and the colon stands behind it. -/
theorem stringTail_entry (k : Value) (t : Text) :
    ∃ u, key false k ++ (": " : Text) ++ t = 0x22 :: u ∧
      stringTail u.length u = some (Node.memberName k, 0x3A :: ((" " : Text) ++ t)) := by
  obtain ⟨u, hu, hread⟩ := stringTail_string (Node.memberName k) (0x3A :: ((" " : Text) ++ t))
  refine ⟨u, hu ▸ ?_, hread⟩
  rw [List.append_assoc]
  cases k <;> rfl

/-- **Members read back if the value of each of them does.** -/
theorem membersTail_prettyEntries {entries : List (Value × Value)}
    (h : ∀ e ∈ entries, ReadsBack depth e.2) (hne : entries ≠ []) (outer : Nat) (rest : Text)
    (hfuel : (Text.join (separator depth) (prettyEntries depth entries)).length + 1 < fuel) :
    membersTail fuel (Text.join (separator depth) (prettyEntries depth entries)
      ++ (newline outer ++ 0x7D :: rest)) = some (Node.ofEntries entries, rest) := by
  induction entries generalizing fuel with
  | nil => exact absurd rfl hne
  | cons e entries ih =>
    obtain ⟨k, v⟩ := e
    obtain ⟨fuel, rfl⟩ := Nat.exists_eq_succ_of_ne_zero (Nat.ne_zero_of_lt hfuel)
    have hv : ReadsBack depth v := h (k, v) List.mem_cons_self
    have hvalue : ∀ t, (prettyAt depth v).length < fuel → Ends t →
        nodeTail fuel ((" " : Text) ++ (prettyAt depth v ++ t)) = some (Node.ofValue v, t) :=
      fun t hlength ht => (nodeTail_space space_blank fuel _).trans (hv fuel t hlength ht)
    cases entries with
    | nil =>
      have hjoin : Text.join (separator depth) (prettyEntries depth [(k, v)])
          = key false k ++ (": " : Text) ++ prettyAt depth v := rfl
      rw [hjoin, List.length_append] at hfuel
      obtain ⟨u, hu, hread⟩ := stringTail_entry k
        (prettyAt depth v ++ (newline outer ++ 0x7D :: rest))
      rw [hjoin, List.append_assoc, hu]
      refine membersTail_last hread (hvalue _ (by omega) (ends_newline outer _)) ?_
      rw [skipSpace_append (space_newline outer), skipSpace_cons (by rfl)]
    | cons w entries =>
      have hjoin : Text.join (separator depth) (prettyEntries depth ((k, v) :: w :: entries))
          = key false k ++ (": " : Text) ++ prettyAt depth v ++ separator depth
            ++ Text.join (separator depth) (prettyEntries depth (w :: entries)) := rfl
      have hpos := length_separator depth
      rw [hjoin, List.length_append, List.length_append, List.length_append] at hfuel
      obtain ⟨u, hu, hread⟩ := stringTail_entry k (prettyAt depth v ++ 0x2C :: (newline depth
        ++ (Text.join (separator depth) (prettyEntries depth (w :: entries))
          ++ (newline outer ++ 0x7D :: rest))))
      rw [hjoin, List.append_assoc, List.append_assoc, List.append_assoc, separator_append, hu]
      refine (membersTail_comma hread (hvalue _ (by omega) (ends_comma _))).trans ?_
      rw [membersTail_space (space_newline depth),
        ih (fun e he => h e (List.mem_cons_of_mem _ he)) (List.cons_ne_nil w entries) (by omega)]
      rfl

theorem prettyAt_list (depth : Nat) (v : Value) (items : List Value) :
    prettyAt depth (.list (v :: items)) = 0x5B :: (newline (depth + 1)
      ++ (Text.join (separator (depth + 1)) (prettyItems (depth + 1) (v :: items))
        ++ (newline depth ++ [0x5D]))) := by
  rw [prettyAt, List.append_assoc, List.append_assoc, List.append_assoc]
  rfl

theorem prettyAt_map (depth : Nat) (e : Value × Value) (entries : List (Value × Value)) :
    prettyAt depth (.map (e :: entries)) = 0x7B :: (newline (depth + 1)
      ++ (Text.join (separator (depth + 1)) (prettyEntries (depth + 1) (e :: entries))
        ++ (newline depth ++ [0x7D]))) := by
  rw [prettyAt, List.append_assoc, List.append_assoc, List.append_assoc]
  rfl

/-- A list reads back if each of its items does. -/
theorem readsBack_list {items : List Value} (h : ∀ v ∈ items, ReadsBack (depth + 1) v) :
    ReadsBack depth (.list items) := by
  intro fuel rest hfuel hrest
  obtain ⟨fuel, rfl⟩ := Nat.exists_eq_succ_of_ne_zero (Nat.ne_zero_of_lt hfuel)
  cases items with
  | nil => rfl
  | cons v items =>
    rw [prettyAt_list] at hfuel ⊢
    simp only [List.cons_append, List.append_assoc, List.length_cons, List.length_append,
      List.nil_append] at hfuel ⊢
    refine nodeTail_bracket ?_
    rw [itemsTail_space (space_newline _)]
    exact itemsTail_prettyItems h (List.cons_ne_nil v items) depth rest (by omega)

/-- A mapping reads back if each value in it does. -/
theorem readsBack_map {entries : List (Value × Value)}
    (h : ∀ e ∈ entries, ReadsBack (depth + 1) e.2) : ReadsBack depth (.map entries) := by
  intro fuel rest hfuel hrest
  obtain ⟨fuel, rfl⟩ := Nat.exists_eq_succ_of_ne_zero (Nat.ne_zero_of_lt hfuel)
  cases entries with
  | nil => rfl
  | cons e entries =>
    rw [prettyAt_map] at hfuel ⊢
    simp only [List.cons_append, List.append_assoc, List.length_cons, List.length_append,
      List.nil_append] at hfuel ⊢
    refine nodeTail_brace ?_
    rw [membersTail_space (space_newline _)]
    exact membersTail_prettyEntries h (List.cons_ne_nil e entries) depth rest (by omega)

/-- **Every value reads back**, at any depth. -/
theorem readsBack (depth : Nat) : (v : Value) → ReadsBack depth v
  | .list items => readsBack_list fun w _ => readsBack (depth + 1) w
  | .map entries => readsBack_map fun e he =>
    have hsize : sizeOf e.2 < sizeOf entries :=
      Nat.lt_trans (by cases e; simp +arith) (List.sizeOf_lt_of_mem he)
    readsBack (depth + 1) e.2
  | .null | .bool _ | .int _ | .float _ | .text _ | .bytes _ | .set _ | .pair _ _ | .date _
  | .moment _ | .loop _ _ | .again _ _ => readsBack_scalar nofun nofun
termination_by v => sizeOf v

/-- **What is written reads back.** -/
theorem node?_pretty (v : Value) : node? (pretty v) = some (Node.ofValue v) := by
  have hread := readsBack 0 v ((pretty v).length + 1) [] (Nat.lt_succ_self _) nofun
  rw [List.append_nil] at hread
  rw [node?, pretty] at *
  rw [hread]
  rfl

end Json
end Localize
