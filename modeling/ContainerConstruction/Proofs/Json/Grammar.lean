import ContainerConstruction.Proofs.Json.Literals
import Mathlib.Data.List.DropRight

/-!
# The grammar of a document

`Written` says which texts stand for a document: blanks may stand between any two tokens, and strings and
numbers may be spelled in any way.  The scanner reads every such text completely and gives the document back;
what is printed is one of these texts, the one without blanks.
-/

namespace ContainerConstruction.Json

namespace Document

/-! ## Written documents -/

/-- Nothing but blanks. -/
def Blanks (text : List Char) : Prop := ∀ c ∈ text, isBlank (some c) = true

mutual

/-- A way to write a document: any blanks may stand between its tokens. -/
inductive Written : Document → List Char → Prop where
  | null : Written .null ['n', 'u', 'l', 'l']
  | boolTrue : Written (.bool true) ['t', 'r', 'u', 'e']
  | boolFalse : Written (.bool false) ['f', 'a', 'l', 's', 'e']
  | number {literal : Literal} {text : List Char} (hnumber : WrittenNumber literal text) :
      Written literal.toDocument text
  | string {text : String} {quoted : List Char} (hquoted : Quoted text quoted) :
      Written (.string (some text)) quoted
  | emptyArray {blanks : List Char} (hblanks : Blanks blanks) :
      Written (.array [] true) ('[' :: (blanks ++ [']']))
  | array {items : List Document} {text : List Char} (hitems : WrittenItems items text) :
      Written (.array items true) ('[' :: text)
  | emptyObject {blanks : List Char} (hblanks : Blanks blanks) :
      Written (.object [] true) ('{' :: (blanks ++ ['}']))
  | object {members : List (Option String × Document)} {text : List Char}
      (hmembers : WrittenMembers members text) : Written (.object members true) ('{' :: text)

/-- A way to write the items of an array, with its closing bracket. -/
inductive WrittenItems : List Document → List Char → Prop where
  | last {item : Document} {before text after : List Char} (hbefore : Blanks before)
      (hitem : Written item text) (hafter : Blanks after) :
      WrittenItems [item] (before ++ (text ++ (after ++ [']'])))
  | more {item : Document} {others : List Document} {before text after rest : List Char}
      (hbefore : Blanks before) (hitem : Written item text) (hafter : Blanks after)
      (hothers : WrittenItems others rest) :
      WrittenItems (item :: others) (before ++ (text ++ (after ++ ',' :: rest)))

/-- A way to write the members of an object, with its closing brace. -/
inductive WrittenMembers : List (Option String × Document) → List Char → Prop where
  | last {name : String} {value : Document} {before quoted colon between text after : List Char}
      (hbefore : Blanks before) (hname : Quoted name quoted) (hcolon : Blanks colon)
      (hbetween : Blanks between) (hvalue : Written value text) (hafter : Blanks after) :
      WrittenMembers [(some name, value)]
        (before ++ (quoted ++ (colon ++ ':' :: (between ++ (text ++ (after ++ ['}']))))))
  | more {name : String} {value : Document} {others : List (Option String × Document)}
      {before quoted colon between text after rest : List Char}
      (hbefore : Blanks before) (hname : Quoted name quoted) (hcolon : Blanks colon)
      (hbetween : Blanks between) (hvalue : Written value text) (hafter : Blanks after)
      (hothers : WrittenMembers others rest) :
      WrittenMembers ((some name, value) :: others)
        (before ++ (quoted ++ (colon ++ ':' :: (between ++ (text ++ (after ++ ',' :: rest))))))

end

/-! ## Blanks -/

theorem skipBlanks_append {blanks : List Char} (hblanks : Blanks blanks) (input : Input) :
    skipBlanks (blanks.map some ++ input) = skipBlanks input := by
  refine List.dropWhile_append_of_pos fun position hposition ↦ ?_
  obtain ⟨c, hc, rfl⟩ := List.mem_map.mp hposition
  exact hblanks c hc

theorem skipBlanks_cons {c : Char} (hc : isBlank (some c) = false) (rest : Input) :
    skipBlanks (some c :: rest) = some c :: rest := by
  simp [skipBlanks, hc]

theorem skipBlanks_before {blanks : List Char} (hblanks : Blanks blanks) {c : Char}
    (hc : isBlank (some c) = false) (rest : Input) :
    skipBlanks (blanks.map some ++ some c :: rest) = some c :: rest :=
  (skipBlanks_append hblanks _).trans (skipBlanks_cons hc rest)

theorem skipBlanks_skipBlanks (input : Input) : skipBlanks (skipBlanks input) = skipBlanks input :=
  List.dropWhile_idempotent isBlank input

theorem scanValue_skipBlanks (fuel : Nat) (input : Input) :
    scanValue fuel (skipBlanks input) = scanValue fuel input := by
  cases fuel with
  | zero => rfl
  | succ fuel => simp only [scanValue, skipBlanks_skipBlanks]

theorem scanValue_blanks {blanks : List Char} (hblanks : Blanks blanks) (fuel : Nat) (input : Input) :
    scanValue fuel (blanks.map some ++ input) = scanValue fuel input := by
  rw [← scanValue_skipBlanks, skipBlanks_append hblanks, scanValue_skipBlanks]

theorem scanItems_skipBlanks (fuel : Nat) (input : Input) :
    scanItems fuel (skipBlanks input) = scanItems fuel input := by
  cases fuel with
  | zero => rfl
  | succ fuel => simp only [scanItems, scanValue_skipBlanks]

theorem scanMembers_skipBlanks (fuel : Nat) (input : Input) :
    scanMembers fuel (skipBlanks input) = scanMembers fuel input := by
  cases fuel with
  | zero => rfl
  | succ fuel => simp only [scanMembers, skipBlanks_skipBlanks]

/-- A number ends before each of the three delimiters. -/
theorem endsNumber_delimiter {delimiter : Char} (h : delimiter = ',' ∨ delimiter = ']' ∨ delimiter = '}')
    (rest : Input) : EndsNumber (some delimiter :: rest) := by
  obtain rfl | rfl | rfl := h <;> exact ⟨by decide, by decide, by decide, by decide⟩

theorem endsNumber_blanks {blanks : List Char} (hblanks : Blanks blanks) {rest : Input}
    (hrest : EndsNumber rest) : EndsNumber (blanks.map some ++ rest) := by
  cases blanks with
  | nil => exact hrest
  | cons c others =>
    have hc : c = ' ' ∨ c = '\t' ∨ c = '\n' ∨ c = '\r' := by
      have hblank := hblanks c (List.mem_cons_self ..)
      simpa [isBlank, or_assoc] using hblank
    obtain rfl | rfl | rfl | rfl := hc <;> exact ⟨by decide, by decide, by decide, by decide⟩

/-! ## Scanning -/

/-- A number begins with no other character than a sign or a digit. -/
theorem ne_of_beginsNumber {c d : Char} (hc : c = '-' ∨ c.isDigit) (hsign : d ≠ '-')
    (hdigit : d.isDigit = false) : c ≠ d := by
  rintro rfl
  exact hc.elim hsign fun h ↦ Bool.false_ne_true (hdigit.symm.trans h)

theorem isBlank_of_beginsNumber {c : Char} (hc : c = '-' ∨ c.isDigit) : isBlank (some c) = false := by
  simp [isBlank, ne_of_beginsNumber (d := ' ') hc (by decide) (by decide),
    ne_of_beginsNumber (d := '\t') hc (by decide) (by decide),
    ne_of_beginsNumber (d := '\n') hc (by decide) (by decide),
    ne_of_beginsNumber (d := '\r') hc (by decide) (by decide)]

/-- A written document begins with a character that neither is a blank nor closes an array. -/
theorem Written.head {document : Document} {text : List Char} (h : Written document text) :
    ∃ c others, text = c :: others ∧ isBlank (some c) = false ∧ c ≠ ']' := by
  cases h with
  | null | boolTrue | boolFalse | emptyArray _ | array _ | emptyObject _ | object _ =>
    exact ⟨_, _, rfl, by decide, by decide⟩
  | string hquoted =>
    cases hquoted
    exact ⟨_, _, rfl, by decide, by decide⟩
  | number hnumber =>
    obtain ⟨c, others, htext, hc⟩ := hnumber.head
    exact ⟨c, others, htext, isBlank_of_beginsNumber hc, ne_of_beginsNumber hc (by decide) (by decide)⟩

theorem scanValue_scalar {c : Char} (hc : isBlank (some c) = false) (harray : c ≠ '[') (hobject : c ≠ '{')
    (fuel : Nat) (rest : Input) : scanValue (fuel + 1) (some c :: rest) = scanScalar c rest := by
  rw [scanValue, skipBlanks_cons hc]
  split
  · rename_i heq
    exact absurd (Option.some.inj (List.cons.inj heq).1) harray
  · rename_i heq
    exact absurd (Option.some.inj (List.cons.inj heq).1) hobject
  · rename_i heq
    obtain ⟨hfirst, rfl⟩ := List.cons.inj heq
    rw [Option.some.inj hfirst]
  · rename_i hother
    exact absurd rfl (hother c rest)

theorem scanScalar_number {c : Char} (hc : c = '-' ∨ c.isDigit) (rest : Input) {literal : Literal}
    {after : Input} (h : scanNumber (some c :: rest) = some (literal, after)) :
    scanScalar c rest = (literal.toDocument, some after) := by
  rw [scanScalar, if_neg (ne_of_beginsNumber hc (by decide) (by decide)),
    if_neg (ne_of_beginsNumber hc (by decide) (by decide)),
    if_neg (ne_of_beginsNumber hc (by decide) (by decide)),
    if_neg (ne_of_beginsNumber hc (by decide) (by decide)), h]

/-- A text in quotes begins with a quote, behind which the pieces of the text are read. -/
theorem Quoted.scan_eq {text : String} {quoted : List Char} (h : Quoted text quoted) (rest : Input) :
    ∃ pieces behind, textOf pieces = some text ∧ quoted.map some ++ rest = some '"' :: behind ∧
      scanString behind = some (pieces, rest) := by
  obtain ⟨htext, hspelled⟩ := h
  refine ⟨_, _, htext, ?_, scanString_of_spelled hspelled rest⟩
  rw [List.map_cons, List.map_append, List.cons_append, List.append_assoc]
  rfl

theorem scanValue_emptyArray {blanks : List Char} (hblanks : Blanks blanks) (fuel : Nat) (rest : Input) :
    scanValue (fuel + 1) (some '[' :: (blanks.map some ++ some ']' :: rest)) =
      (.array [] true, some rest) := by
  rw [scanValue, skipBlanks_cons (by decide)]
  simp only [skipBlanks_before hblanks (show isBlank (some ']') = false by decide)]

theorem scanValue_array {input : Input} (hopen : ∀ after, skipBlanks input ≠ some ']' :: after)
    (fuel : Nat) :
    scanValue (fuel + 1) (some '[' :: input) =
      (.array (scanItems fuel input).1 (scanItems fuel input).2.isSome, (scanItems fuel input).2) := by
  rw [scanValue, skipBlanks_cons (by decide)]
  simp only [scanItems_skipBlanks]

theorem scanValue_emptyObject {blanks : List Char} (hblanks : Blanks blanks) (fuel : Nat) (rest : Input) :
    scanValue (fuel + 1) (some '{' :: (blanks.map some ++ some '}' :: rest)) =
      (.object [] true, some rest) := by
  rw [scanValue, skipBlanks_cons (by decide)]
  simp only [skipBlanks_before hblanks (show isBlank (some '}') = false by decide)]

theorem scanValue_object {input : Input} (hopen : ∀ after, skipBlanks input ≠ some '}' :: after)
    (fuel : Nat) :
    scanValue (fuel + 1) (some '{' :: input) =
      (.object (scanMembers fuel input).1 (scanMembers fuel input).2.isSome,
        (scanMembers fuel input).2) := by
  rw [scanValue, skipBlanks_cons (by decide)]
  simp only [scanMembers_skipBlanks]

/-- Items do not begin like the end of an array. -/
theorem WrittenItems.not_closing {items : List Document} {text : List Char} (h : WrittenItems items text)
    (rest after : Input) : skipBlanks (text.map some ++ rest) ≠ some ']' :: after := by
  have hfirst {item : Document} {before text : List Char} (hbefore : Blanks before)
      (hitem : Written item text) (behind : List Char) :
      skipBlanks ((before ++ (text ++ behind)).map some ++ rest) ≠ some ']' :: after := by
    obtain ⟨c, others, rfl, hblank, hclose⟩ := hitem.head
    rw [List.map_append, List.append_assoc, skipBlanks_append hbefore, List.cons_append, List.map_cons,
      List.cons_append, skipBlanks_cons hblank]
    intro heq
    exact hclose (Option.some.inj (List.cons.inj heq).1)
  cases h with
  | last hbefore hitem _ => exact hfirst hbefore hitem _
  | more hbefore hitem _ _ => exact hfirst hbefore hitem _

/-- Members do not begin like the end of an object. -/
theorem WrittenMembers.not_closing {members : List (Option String × Document)} {text : List Char}
    (h : WrittenMembers members text) (rest after : Input) :
    skipBlanks (text.map some ++ rest) ≠ some '}' :: after := by
  have hfirst {before quoted : List Char} {name : String} (hbefore : Blanks before)
      (hname : Quoted name quoted) (behind : List Char) :
      skipBlanks ((before ++ (quoted ++ behind)).map some ++ rest) ≠ some '}' :: after := by
    obtain ⟨_, input, -, hquote, -⟩ := hname.scan_eq (behind.map some ++ rest)
    rw [List.map_append, List.append_assoc, skipBlanks_append hbefore, List.map_append, List.append_assoc,
      hquote, skipBlanks_cons (by decide)]
    intro heq
    cases heq
  cases h with
  | last hbefore hname _ _ _ _ => exact hfirst hbefore hname _
  | more hbefore hname _ _ _ _ _ => exact hfirst hbefore hname _

/-- A brace behind a member ends the object; a comma goes on to the next one. -/
theorem scanMembers_member {before quoted colon : List Char} {name : String} {value : Document} {fuel : Nat}
    {input after : Input} (hbefore : Blanks before) (hname : Quoted name quoted) (hcolon : Blanks colon)
    (hvalue : scanValue fuel input = (value, some after)) (rest : Input) :
    (skipBlanks after = some '}' :: rest →
      scanMembers (fuel + 1) (before.map some ++ (quoted.map some ++ (colon.map some ++ some ':' :: input))) =
        ([(some name, value)], some rest)) ∧
    (skipBlanks after = some ',' :: rest →
      scanMembers (fuel + 1) (before.map some ++ (quoted.map some ++ (colon.map some ++ some ':' :: input))) =
        ((some name, value) :: (scanMembers fuel rest).1, (scanMembers fuel rest).2)) := by
  obtain ⟨pieces, behind, htext, hquote, hscan⟩ := hname.scan_eq (colon.map some ++ some ':' :: input)
  have hbegin := skipBlanks_before hbefore (show isBlank (some '"') = false by decide) behind
  have hbetween := skipBlanks_before hcolon (show isBlank (some ':') = false by decide) input
  constructor <;> intro hnext <;>
    simp only [hquote, scanMembers, hbegin, hscan, htext, hbetween, hvalue, hnext]

theorem scanValue_number {literal : Literal} {text : List Char} (h : WrittenNumber literal text)
    {rest : Input} (hrest : EndsNumber rest) (fuel : Nat) :
    scanValue (fuel + 1) (text.map some ++ rest) = (literal.toDocument, some rest) := by
  have hscan := scanNumber_of_written h hrest
  obtain ⟨c, others, rfl, hc⟩ := h.head
  rw [List.map_cons, List.cons_append] at hscan ⊢
  rw [scanValue_scalar (isBlank_of_beginsNumber hc) (ne_of_beginsNumber hc (by decide) (by decide))
    (ne_of_beginsNumber hc (by decide) (by decide)), scanScalar_number hc _ hscan]

theorem scanValue_string {text : String} {quoted : List Char} (h : Quoted text quoted) (fuel : Nat)
    (rest : Input) : scanValue (fuel + 1) (quoted.map some ++ rest) = (.string (some text), some rest) := by
  obtain ⟨pieces, behind, htext, hquote, hscan⟩ := h.scan_eq rest
  rw [hquote, scanValue_scalar (by decide) (by decide) (by decide), scanScalar, if_pos rfl, hscan]
  exact congrArg (fun text ↦ (Document.string text, some rest)) htext

mutual

/-- Every way to write a value is read as that value. -/
theorem scanValue_of_written {document : Document} {text : List Char} (h : Written document text)
    {fuel : Nat} (hfuel : 2 * text.length ≤ fuel) {rest : Input} (hrest : EndsNumber rest) :
    scanValue fuel (text.map some ++ rest) = (document, some rest) := by
  obtain ⟨c, others, hhead, -⟩ := h.head
  obtain ⟨fuel, rfl⟩ : ∃ left, fuel = left + 1 := by
    refine Nat.exists_eq_add_one.mpr ?_
    rw [hhead, List.length_cons] at hfuel
    omega
  clear hhead
  match h with
  | .null | .boolTrue | .boolFalse => rfl
  | .number hnumber => exact scanValue_number hnumber hrest fuel
  | .string hquoted => exact scanValue_string hquoted fuel rest
  | .emptyArray hblanks => simpa using scanValue_emptyArray hblanks fuel rest
  | .array hitems =>
    rw [List.map_cons, List.cons_append, scanValue_array (hitems.not_closing rest),
      scanItems_of_written hitems (by rw [List.length_cons] at hfuel; omega) rest]
    rfl
  | .emptyObject hblanks => simpa using scanValue_emptyObject hblanks fuel rest
  | .object hmembers =>
    rw [List.map_cons, List.cons_append, scanValue_object (hmembers.not_closing rest),
      scanMembers_of_written hmembers (by rw [List.length_cons] at hfuel; omega) rest]
    rfl

/-- Every way to write items is read as those items. -/
theorem scanItems_of_written {items : List Document} {text : List Char} (h : WrittenItems items text)
    {fuel : Nat} (hfuel : 2 * text.length ≤ fuel) (rest : Input) :
    scanItems fuel (text.map some ++ rest) = (items, some rest) := by
  obtain ⟨fuel, rfl⟩ : ∃ left, fuel = left + 1 := by
    cases h <;>
    · refine Nat.exists_eq_add_one.mpr ?_
      simp only [List.length_append, List.length_cons] at hfuel
      omega
  match h with
  | .last hbefore hitem hafter =>
    simp only [List.length_append, List.length_cons, List.length_nil] at hfuel
    have hscan := @scanValue_of_written _ _ hitem fuel (by omega) _
      (endsNumber_blanks hafter (endsNumber_delimiter (.inr (.inl rfl)) rest))
    simp only [List.map_append, List.map_cons, List.map_nil, List.append_assoc, List.cons_append,
      List.nil_append, scanItems, scanValue_blanks hbefore, hscan,
      skipBlanks_before hafter (show isBlank (some ']') = false by decide)]
  | @WrittenItems.more _ _ _ _ _ remaining hbefore hitem hafter hothers =>
    simp only [List.length_append, List.length_cons] at hfuel
    have hscan := @scanValue_of_written _ _ hitem fuel (by omega) _
      (endsNumber_blanks hafter (endsNumber_delimiter (.inl rfl) (remaining.map some ++ rest)))
    have hscanOthers := @scanItems_of_written _ _ hothers fuel (by omega) rest
    simp only [List.map_append, List.map_cons, List.append_assoc, List.cons_append, scanItems,
      scanValue_blanks hbefore, hscan, skipBlanks_before hafter (show isBlank (some ',') = false by decide),
      hscanOthers]

/-- Every way to write members is read as those members. -/
theorem scanMembers_of_written {members : List (Option String × Document)} {text : List Char}
    (h : WrittenMembers members text) {fuel : Nat} (hfuel : 2 * text.length ≤ fuel) (rest : Input) :
    scanMembers fuel (text.map some ++ rest) = (members, some rest) := by
  obtain ⟨fuel, rfl⟩ : ∃ left, fuel = left + 1 := by
    cases h <;>
    · refine Nat.exists_eq_add_one.mpr ?_
      simp only [List.length_append, List.length_cons] at hfuel
      omega
  match h with
  | .last hbefore hname hcolon hbetween hvalue hafter =>
    simp only [List.length_append, List.length_cons, List.length_nil] at hfuel
    have hscan := @scanValue_of_written _ _ hvalue fuel (by omega) _
      (endsNumber_blanks hafter (endsNumber_delimiter (.inr (.inr rfl)) rest))
    have hvalue := (scanValue_blanks hbetween fuel _).trans hscan
    have hmember := (scanMembers_member hbefore hname hcolon hvalue rest).1
      (skipBlanks_before hafter (by decide) rest)
    simpa using hmember
  | @WrittenMembers.more _ _ _ _ _ _ _ _ _ remaining hbefore hname hcolon hbetween hvalue hafter hothers =>
    simp only [List.length_append, List.length_cons] at hfuel
    have hscan := @scanValue_of_written _ _ hvalue fuel (by omega) _
      (endsNumber_blanks hafter (endsNumber_delimiter (.inl rfl) (remaining.map some ++ rest)))
    have hscanOthers := @scanMembers_of_written _ _ hothers fuel (by omega) rest
    have hvalue := (scanValue_blanks hbetween fuel _).trans hscan
    have hmember := (scanMembers_member hbefore hname hcolon hvalue _).2
      (skipBlanks_before hafter (by decide) (remaining.map some ++ rest))
    rw [hscanOthers] at hmember
    simpa using hmember

end

/-- A written document is read completely, whatever blanks stand around it. -/
theorem scan_of_written {document : Document} {before text after : List Char} (hbefore : Blanks before)
    (h : Written document text) (hafter : Blanks after) :
    scan ((before ++ (text ++ after)).map some) = (document, true) := by
  have hends : EndsNumber (after.map some) := by
    simpa using @endsNumber_blanks after hafter [] trivial
  have hrest : skipBlanks (after.map some) = [] := by
    simpa [skipBlanks] using skipBlanks_append hafter []
  have hlength : 2 * text.length ≤ 2 * ((before ++ (text ++ after)).map some).length + 2 := by
    simp only [List.length_map, List.length_append]
    omega
  have hscan := scanValue_of_written h hlength hends
  rw [← List.map_append, ← scanValue_blanks hbefore, ← List.map_append] at hscan
  rw [scan, hscan]
  simp [hrest]

end Document

/-! ## Printed values -/

mutual

/-- Whether every number of a value is an integer that is read as it was printed. -/
def IsExact : Json → Prop
  | .integer value => Document.IsWord value
  | .decimal _ => False
  | .array items => areExact items
  | .object members => membersExact members
  | _ => True

def areExact : List Json → Prop
  | [] => True
  | item :: rest => IsExact item ∧ areExact rest

def membersExact : List (String × Json) → Prop
  | [] => True
  | (_, value) :: rest => IsExact value ∧ membersExact rest

end

namespace Document

theorem blanks_nil : Blanks [] := fun _ h ↦ nomatch h

mutual

/-- The compact text is one of the ways to write a value. -/
theorem written_print (value : Json) (h : value.IsExact) : Written (ofJson value) value.print := by
  match value with
  | .null => exact .null
  | .bool true => exact .boolTrue
  | .bool false => exact .boolFalse
  | .integer number =>
    simp only [IsExact] at h
    obtain ⟨literal, hliteral, hnumber⟩ := written_printInteger h
    rw [ofJson, print, ← hliteral]
    exact .number hnumber
  | .decimal _ => simp only [IsExact] at h
  | .string text => exact .string (quoted_printString text)
  | .array [] => exact .emptyArray blanks_nil
  | .array (item :: others) =>
    simp only [IsExact] at h
    exact .array (writtenItems_print (item :: others) h (List.cons_ne_nil _ _))
  | .object [] => exact .emptyObject blanks_nil
  | .object (member :: others) =>
    simp only [IsExact] at h
    exact .object (writtenMembers_print (member :: others) h (List.cons_ne_nil _ _))

theorem writtenItems_print (items : List Json) (h : areExact items) (hne : items ≠ []) :
    WrittenItems (ofItems items) (printItems items) := by
  match items with
  | [] => exact absurd rfl hne
  | [item] =>
    simp only [areExact] at h
    simpa [printItems, ofItems] using WrittenItems.last blanks_nil (written_print item h.1) blanks_nil
  | item :: next :: rest =>
    rw [areExact] at h
    have hothers := writtenItems_print (next :: rest) h.2 (List.cons_ne_nil _ _)
    simpa [printItems, ofItems] using
      WrittenItems.more blanks_nil (written_print item h.1) blanks_nil hothers

theorem writtenMembers_print (members : List (String × Json)) (h : membersExact members)
    (hne : members ≠ []) : WrittenMembers (ofMembers members) (printMembers members) := by
  match members with
  | [] => exact absurd rfl hne
  | [(name, value)] =>
    simp only [membersExact] at h
    simpa [printMembers, ofMembers] using
      WrittenMembers.last blanks_nil (quoted_printString name) blanks_nil blanks_nil
        (written_print value h.1) blanks_nil
  | (name, value) :: next :: rest =>
    rw [membersExact] at h
    have hothers := writtenMembers_print (next :: rest) h.2 (List.cons_ne_nil _ _)
    simpa [printMembers, ofMembers] using
      WrittenMembers.more blanks_nil (quoted_printString name) blanks_nil blanks_nil
        (written_print value h.1) blanks_nil hothers

end

/-- A printed value is read as the tree that it is. -/
theorem scan_print {value : Json} (h : value.IsExact) :
    scan (value.print.map some) = (ofJson value, true) := by
  simpa using scan_of_written blanks_nil (written_print value h) blanks_nil

end Document

end ContainerConstruction.Json
