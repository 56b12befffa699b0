import SqlBuilder.Proofs.Schema.LiteralText
import SqlBuilder.Proofs.Text.JsonString
import SqlBuilder.Proofs.Value.Fields
import SqlBuilder.Proofs.Value.JsonText

/-!
# Reading JSON

A reader of JSON goes from one character to the next and keeps the containers
that are not closed yet.  What is written for a document of nothing, truth values,
integers, texts, lists and mappings from texts is read back as that document.
-/

namespace SqlBuilder

namespace Json

open Text

/-! ## The reader -/

/-- The number that is written in `cs`, an integer unless it has a fraction or an exponent. -/
def number? (cs : List Char) : Option Value :=
  let negative := cs.head? == some '-'
  let digits := if negative then cs.tail else cs
  let whole := digits.takeWhile Char.isDigit
  let rest := digits.dropWhile Char.isDigit
  if whole.isEmpty || (whole.head? == some '0' && whole.length != 1) then none
  else if rest.isEmpty then
    let size : Int := Number.digitsValue whole
    some (.int (if negative then -size else size))
  else if rest.head? == some '.' && !rest.tail.head?.any Char.isDigit then none
  else (Number.scaled? cs).map fun n =>
    .float (Binary64.ofDecimal n.negative n.coefficient n.exponent)

/-- The value of a word or number. -/
def word? (cs : List Char) : Option Value :=
  if cs = "null".toList then some .null
  else if cs = "true".toList then some (.bool true)
  else if cs = "false".toList then some (.bool false)
  else number? cs

/-- A container that is not closed: the items before the one that is read, or the fields before the
one whose name is given. -/
inductive Frame
  | list (items : List Value)
  | dict (fields : Fields) (name : String)

/-- What is read. A container that has just begun may end where its first item or name is due. -/
inductive Mode
  | value (fresh : Bool)
  | name (fields : Fields) (fresh : Bool)
  | colon (fields : Fields) (name : String)
  | word (cs : List Char)
  /-- A text, which is the name of the next field where there are fields. -/
  | text (fields? : Option Fields) (r : UnitReader)
  | whole (v : Value)

structure State where
  frames : List Frame
  mode : Mode

def isBlank (c : Char) : Bool := c == ' ' || c == '\t' || c == '\n' || c == '\r'

namespace State

/-- A character where a value is due. -/
def due (frames : List Frame) (fresh : Bool) (c : Char) : Option State :=
  if isBlank c then some ⟨frames, .value fresh⟩
  else if isBareChar c then some ⟨frames, .word [c]⟩
  else match c, fresh, frames with
    | '"', _, frames => some ⟨frames, .text none ⟨[], .nothing⟩⟩
    | '[', _, frames => some ⟨.list [] :: frames, .value true⟩
    | '\x7b', _, frames => some ⟨frames, .name [] true⟩
    | ']', true, .list items :: frames => some ⟨frames, .whole (.list items)⟩
    | _, _, _ => none

/-- A character after a value. -/
def after (frames : List Frame) (v : Value) (c : Char) : Option State :=
  if isBlank c then some ⟨frames, .whole v⟩
  else match c, frames with
    | ',', .list items :: frames => some ⟨.list (items ++ [v]) :: frames, .value false⟩
    | ']', .list items :: frames => some ⟨frames, .whole (.list (items ++ [v]))⟩
    | ',', .dict fields name :: frames => some ⟨frames, .name (putField name v fields) false⟩
    | '\x7d', .dict fields name :: frames =>
      some ⟨frames, .whole (.dict (Fields.toEntries (putField name v fields)))⟩
    | _, _ => none

def step (s : State) (c : Char) : Option State :=
  match s.mode with
  | .value fresh => due s.frames fresh c
  | .name fields fresh =>
    if isBlank c then some s
    else if c = '"' then some { s with mode := .text (some fields) ⟨[], .nothing⟩ }
    else if c = '\x7d' ∧ fresh then some { s with mode := .whole (.dict fields.toEntries) }
    else none
  | .colon fields name =>
    if isBlank c then some s
    else if c = ':' then some ⟨.dict fields name :: s.frames, .value false⟩
    else none
  | .word cs =>
    if isBareChar c then some { s with mode := .word (cs ++ [c]) }
    else (word? cs).bind fun v => after s.frames v c
  | .text fields? r =>
    match r.step c with
    | some r => some { s with mode := .text fields? r }
    | none =>
      if c = '"' ∧ r.pending = .nothing then (ofUnits? r.units).map fun cs =>
        let text := String.ofList cs
        { s with mode := fields?.elim (.whole (.text text)) (.colon · text) }
      else none
  | .whole v => after s.frames v c

/-- The value that was read, if all of it was. -/
def value? : State → Option Value
  | ⟨[], .whole v⟩ => some v
  | ⟨[], .word cs⟩ => word? cs
  | _ => none

end State

/-- The value that a text is the JSON of. -/
def read (cs : List Char) : Option Value :=
  (cs.foldlM State.step ⟨[], .value false⟩).bind State.value?

/-! ## Values that were read -/

/-- A reader that has come to the end of a value knows it, or has its word. -/
inductive Holds (frames : List Frame) (v : Value) : State → Prop
  | whole : Holds frames v ⟨frames, .whole v⟩
  | word {cs : List Char} (hcs : word? cs = some v) : Holds frames v ⟨frames, .word cs⟩

/-- Wherever a value is due, the reader takes it from the text. -/
def Reads (cs : List Char) (v : Value) : Prop :=
  ∀ (frames : List Frame) (fresh : Bool), ∃ s,
    cs.foldlM State.step ⟨frames, .value fresh⟩ = some s ∧ Holds frames v s

section

variable {frames : List Frame} {v : Value} {s : State} {cs : List Char}

theorem Holds.step
    (hs : Holds frames v s) {c : Char} (hc : isBareChar c = false) :
    s.step c = State.after frames v c := by
  cases hs with
  | whole => rfl
  | word hcs => simp [State.step, hc, hcs]

theorem Reads.read_eq
    (hcs : Reads cs v) : read cs = some v := by
  obtain ⟨s, hrun, hs⟩ := hcs [] false
  rw [read, hrun, Option.bind_some]
  cases hs with
  | whole => rfl
  | word hword => exact hword

/-! ## Words -/

theorem run_word
    (frames : List Frame) (before : List Char) (hcs : ∀ c ∈ cs, isBareChar c = true) :
    cs.foldlM State.step ⟨frames, .word before⟩ = some ⟨frames, .word (before ++ cs)⟩ := by
  induction cs generalizing before with
  | nil => simp
  | cons c cs ih =>
      obtain ⟨hc, hcs⟩ := List.forall_mem_cons.mp hcs
      have hstep : State.step ⟨frames, .word before⟩ c = some ⟨frames, .word (before ++ [c])⟩ := by
        simp [State.step, hc]
      rw [List.foldlM_cons, hstep]
      simpa using ih (before ++ [c]) hcs

theorem isBlank_of_isBareChar
    {c : Char} (hc : isBareChar c = true) : isBlank c = false := by
  rw [Bool.eq_false_iff]
  intro hblank
  simp only [isBlank, Bool.or_eq_true, beq_iff_eq] at hblank
  rcases hblank with ((rfl | rfl) | rfl) | rfl <;> exact absurd hc (by decide)

theorem Reads.of_word
    {text : String} (htext : IsBare text) (hword : word? text.toList = some v) :
    Reads text.toList v := by
  intro frames fresh
  unfold IsBare at htext
  cases hcs : text.toList with
  | nil =>
      rw [hcs] at hword
      exact absurd hword (by simp [word?, number?])
  | cons c cs =>
      rw [hcs] at htext hword
      obtain ⟨hc, hcs⟩ := List.forall_mem_cons.mp htext
      have hstep : State.step ⟨frames, .value fresh⟩ c = some ⟨frames, .word [c]⟩ := by
        simp [State.step, State.due, isBlank_of_isBareChar hc, hc]
      refine ⟨⟨frames, .word (c :: cs)⟩, ?_, .word hword⟩
      rw [List.foldlM_cons, hstep]
      simpa using run_word frames [c] hcs

/-- The digits of a number do not begin with a zero, unless that is all there is. -/
theorem length_of_head_toDigits
    {n : Nat} (hn : (Nat.toDigits 10 n).head? = some '0') : (Nat.toDigits 10 n).length = 1 := by
  rcases Nat.eq_zero_or_pos n with rfl | hpos
  · rfl
  · have hvalue := Nat.ofDigitChars_ten_toDigits (n := n)
    have hdigits := areDigits_toDigits n
    have hleast := Number.pow_length_le hpos
    cases hcs : Nat.toDigits 10 n with
    | nil => simp [hcs] at hn
    | cons c cs =>
        rw [hcs] at hn hvalue hdigits hleast
        obtain rfl : c = '0' := by simpa using hn
        have hless := ofDigitChars_lt_pow fun d hd => hdigits d (List.mem_cons_of_mem _ hd)
        have hrest : Nat.ofDigitChars 10 cs 0 = n := hvalue
        rw [List.length_cons, Nat.add_sub_cancel] at hleast
        omega

theorem head_toDigits
    {n : Nat} {c : Char} (hc : c.isDigit = false) : (Nat.toDigits 10 n).head? ≠ some c := by
  intro hhead
  have hdigit := areDigits_toDigits n c (List.mem_of_mem_head? hhead)
  simp [hc] at hdigit

theorem number?_toDigits
    (n : Nat) : number? (Nat.toDigits 10 n) = some (.int n) ∧
      number? ('-' :: Nat.toDigits 10 n) = some (.int (-n)) := by
  obtain ⟨htake, hdrop⟩ : (Nat.toDigits 10 n ++ []).takeWhile Char.isDigit = Nat.toDigits 10 n ∧
      (Nat.toDigits 10 n ++ []).dropWhile Char.isDigit = [] :=
    takeWhile_dropWhile (areDigits_toDigits n) (by simp)
  rw [List.append_nil] at htake hdrop
  have hvalue : Number.digitsValue (Nat.toDigits 10 n) = n := Nat.ofDigitChars_ten_toDigits
  have hzero : ((Nat.toDigits 10 n).head? == some '0' && (Nat.toDigits 10 n).length != 1) =
      false := by
    rw [Bool.and_eq_false_iff]
    by_cases hhead : (Nat.toDigits 10 n).head? = some '0'
    · exact .inr (by simp [length_of_head_toDigits hhead])
    · exact .inl (by simp [hhead])
  have hsign : ((Nat.toDigits 10 n).head? == some '-') = false := by
    simpa using head_toDigits (by decide)
  constructor
  · simp [number?, hsign, htake, hdrop, hzero, hvalue]
  · simp [number?, htake, hdrop, hzero, hvalue]

theorem word?_toString
    (n : Int) : word? (toString n).toList = some (.int n) := by
  -- a word that begins like none of the three is a number
  have hword : ∀ cs : List Char, cs.head? ∉ [some 'n', some 't', some 'f'] →
      word? cs = number? cs := by
    intro cs hhead
    have hwords : ∀ word ∈ ["null", "true", "false"],
        word.toList.head? ∈ [some 'n', some 't', some 'f'] := by decide
    have hne : ∀ word ∈ ["null", "true", "false"], cs ≠ word.toList := by
      rintro word hmem rfl
      exact hhead (hwords word hmem)
    simp only [List.mem_cons, List.not_mem_nil, or_false, forall_eq_or_imp, forall_eq] at hne
    simp only [word?, hne.1, hne.2.1, hne.2.2, if_false]
  cases n with
  | ofNat n =>
      have htext : (toString (Int.ofNat n)).toList = Nat.toDigits 10 n := Number.toList_toString n
      rw [htext, hword, (number?_toDigits n).1, Int.ofNat_eq_natCast]
      simp only [List.mem_cons, List.not_mem_nil, or_false, not_or]
      exact ⟨head_toDigits rfl, head_toDigits rfl, head_toDigits rfl⟩
  | negSucc n =>
      have htext : (toString (Int.negSucc n)).toList = '-' :: Nat.toDigits 10 (n + 1) := by
        change ("-" ++ toString (n + 1)).toList = _
        rw [String.toList_append, Number.toList_toString]
        rfl
      rw [htext, hword, (number?_toDigits (n + 1)).2, Int.negSucc_eq]
      · rfl
      · simp

end

/-! ## Texts -/

theorem run_text
    (frames : List Frame) (fields? : Option Fields) {cs : List Char} {r r' : UnitReader}
    (hrun : cs.foldlM UnitReader.step r = some r') :
    cs.foldlM State.step ⟨frames, .text fields? r⟩ = some ⟨frames, .text fields? r'⟩ := by
  induction cs generalizing r with
  | nil =>
      obtain rfl := Option.some.inj hrun
      rfl
  | cons c cs ih =>
      rw [List.foldlM_cons] at hrun
      obtain ⟨next, hstep, hrest⟩ := Option.bind_eq_some_iff.mp hrun
      have hlifted : State.step ⟨frames, .text fields? r⟩ c =
          some ⟨frames, .text fields? next⟩ := by
        simp [State.step, hstep]
      rw [List.foldlM_cons, hlifted]
      exact ih hrest

/-- What follows the opening quote of a text. -/
theorem run_jsonString
    (frames : List Frame) (fields? : Option Fields) (s : String) :
    (s.toList.flatMap jsonChar ++ ['"']).foldlM State.step
        ⟨frames, .text fields? ⟨[], .nothing⟩⟩ =
      some ⟨frames, fields?.elim (.whole (.text s)) (.colon · s)⟩ := by
  have hrun := run_text frames fields? (UnitReader.run_jsonChars [] s.toList)
  rw [List.foldlM_append, hrun]
  simp [State.step, UnitReader.step, ofUnits?_flatMap]

theorem reads_jsonString
    (s : String) : Reads (jsonString s).toList (.text s) := by
  intro frames fresh
  have hopen : State.step ⟨frames, .value fresh⟩ '"' =
      some ⟨frames, .text none ⟨[], .nothing⟩⟩ := by
    simp [State.step, State.due, isBlank, isBareChar]
  refine ⟨_, ?_, .whole⟩
  rw [jsonString, String.toList_ofList, List.foldlM_cons, hopen]
  exact run_jsonString frames none s

/-! ## Lists -/

/-- Joined texts are the first of them, a comma with a blank, and the others joined. -/
theorem toList_intercalate_cons_cons
    (text next : String) (texts : List String) :
    (", ".intercalate (text :: next :: texts)).toList =
      text.toList ++ ([',', ' '] ++ (", ".intercalate (next :: texts)).toList) := by
  rw [String.intercalate_cons_cons, String.toList_append, String.toList_append, List.append_assoc]
  rfl

section

variable {frames : List Frame} {v : Value} {s : State}

theorem run_blank
    {fresh : Bool} : State.step ⟨frames, .value fresh⟩ ' ' = some ⟨frames, .value fresh⟩ := by
  simp [State.step, State.due, isBlank]

theorem run_item_comma
    {items : List Value} (hs : Holds (.list items :: frames) v s) :
    [',', ' '].foldlM State.step s = some ⟨.list (items ++ [v]) :: frames, .value false⟩ := by
  have hcomma : s.step ',' = some ⟨.list (items ++ [v]) :: frames, .value false⟩ := by
    rw [hs.step (by decide)]
    simp [State.after, isBlank]
  rw [List.foldlM_cons, hcomma]
  simp [run_blank]

theorem run_item_close
    {items : List Value} (hs : Holds (.list items :: frames) v s) :
    s.step ']' = some ⟨frames, .whole (.list (items ++ [v]))⟩ := by
  rw [hs.step (by decide)]
  simp [State.after, isBlank]

/-- Items are read one after another, up to the closing bracket. -/
theorem run_items
    {v : Value} {items : List Value} {text : String} {texts : List String}
    (hv : Reads text.toList v)
    (hitems : List.Forall₂ (fun v (text : String) => Reads text.toList v) items texts)
    (before : List Value) (fresh : Bool) :
    ((", ".intercalate (text :: texts)).toList ++ [']']).foldlM State.step
        ⟨.list before :: frames, .value fresh⟩ =
      some ⟨frames, .whole (.list (before ++ v :: items))⟩ := by
  induction hitems generalizing v text before fresh with
  | nil =>
      obtain ⟨s, hrun, hs⟩ := hv (.list before :: frames) fresh
      rw [String.intercalate_singleton, List.foldlM_append, hrun]
      simp [run_item_close hs]
  | @cons w next items texts hw _ ih =>
      obtain ⟨s, hrun, hs⟩ := hv (.list before :: frames) fresh
      have hrest := ih hw (before ++ [v]) false
      rw [toList_intercalate_cons_cons, List.append_assoc, List.append_assoc, List.foldlM_append,
        hrun]
      change ([',', ' '] ++ _).foldlM State.step s = _
      rw [List.foldlM_append, run_item_comma hs]
      simpa using hrest

theorem reads_list
    {items : List Value} {texts : List String}
    (hitems : List.Forall₂ (fun v (text : String) => Reads text.toList v) items texts) :
    Reads ("[" ++ ", ".intercalate texts ++ "]").toList (.list items) := by
  intro frames fresh
  have hopen : State.step ⟨frames, .value fresh⟩ '[' = some ⟨.list [] :: frames, .value true⟩ := by
    simp [State.step, State.due, isBlank, isBareChar]
  refine ⟨_, ?_, .whole⟩
  rw [String.toList_append, String.toList_append, List.append_assoc]
  change ('[' :: _).foldlM State.step _ = _
  rw [List.foldlM_cons, hopen]
  cases hitems with
  | nil => simp [State.step, State.due, isBlank, isBareChar]
  | cons hv hitems => exact run_items hv hitems [] true

/-! ## Mappings -/

/-- A field and the text that is written for it. -/
def ReadsField (field : String × Value) (text : String) : Prop :=
  ∃ valueText, text = jsonString field.1 ++ ": " ++ valueText ∧ Reads valueText.toList field.2

theorem run_field
    {field : String × Value} {text : String} (hfield : ReadsField field text)
    (frames : List Frame) (fields : Fields) (fresh : Bool) :
    ∃ s, text.toList.foldlM State.step ⟨frames, .name fields fresh⟩ = some s ∧
      Holds (.dict fields field.1 :: frames) field.2 s := by
  obtain ⟨valueText, rfl, hv⟩ := hfield
  obtain ⟨s, hrun, hs⟩ := hv (.dict fields field.1 :: frames) false
  have hopen : State.step ⟨frames, .name fields fresh⟩ '"' =
      some ⟨frames, .text (some fields) ⟨[], .nothing⟩⟩ := by
    simp [State.step, isBlank]
  have hcolon : [':', ' '].foldlM State.step ⟨frames, .colon fields field.1⟩ =
      some ⟨.dict fields field.1 :: frames, .value false⟩ := by
    have hstep : State.step ⟨frames, .colon fields field.1⟩ ':' =
        some ⟨.dict fields field.1 :: frames, .value false⟩ := by
      simp [State.step, isBlank]
    rw [List.foldlM_cons, hstep]
    simp [run_blank]
  refine ⟨s, ?_, hs⟩
  rw [String.toList_append, String.toList_append, jsonString, String.toList_ofList,
    List.cons_append, List.cons_append, List.foldlM_cons, hopen]
  change ((_ ++ [':', ' ']) ++ _).foldlM State.step _ = _
  rw [List.foldlM_append, List.foldlM_append, run_jsonString]
  change ([':', ' '].foldlM State.step ⟨frames, .colon fields field.1⟩ >>= _) = _
  rw [hcolon]
  exact hrun

theorem putField_new
    {name : String} {fields : Fields} (hname : name ∉ fields.map (·.1)) (v : Value) :
    putField name v fields = fields ++ [(name, v)] := by
  induction fields with
  | nil => rfl
  | cons field fields ih =>
      obtain ⟨hne, hname⟩ := not_or.mp fun h => hname (List.mem_cons.mpr h)
      rw [putField, if_neg (Ne.symm hne), ih hname, List.cons_append]

theorem run_field_comma
    {fields : Fields} {field : String × Value}
    (hs : Holds (.dict fields field.1 :: frames) field.2 s)
    (hnew : field.1 ∉ fields.map (·.1)) :
    [',', ' '].foldlM State.step s = some ⟨frames, .name (fields ++ [field]) false⟩ := by
  have hcomma : s.step ',' = some ⟨frames, .name (fields ++ [field]) false⟩ := by
    rw [hs.step (by decide)]
    simp [State.after, isBlank, putField_new hnew]
  rw [List.foldlM_cons, hcomma]
  simp [State.step, isBlank]

theorem run_field_close
    {fields : Fields} {field : String × Value}
    (hs : Holds (.dict fields field.1 :: frames) field.2 s)
    (hnew : field.1 ∉ fields.map (·.1)) :
    s.step '\x7d' = some ⟨frames, .whole (.dict (Fields.toEntries (fields ++ [field])))⟩ := by
  rw [hs.step (by decide)]
  simp [State.after, isBlank, putField_new hnew]

/-- Fields with new names are read one after another, up to the closing brace. -/
theorem run_fields
    {field : String × Value} {fields : Fields} {text : String} {texts : List String}
    (hfield : ReadsField field text) (hfields : List.Forall₂ ReadsField fields texts)
    (before : Fields) (fresh : Bool)
    (hnames : ((before ++ field :: fields).map (·.1)).Nodup) :
    ((", ".intercalate (text :: texts)).toList ++ ['\x7d']).foldlM State.step
        ⟨frames, .name before fresh⟩ =
      some ⟨frames, .whole (.dict (Fields.toEntries (before ++ field :: fields)))⟩ := by
  induction hfields generalizing field text before fresh with
  | nil =>
      obtain ⟨s, hrun, hs⟩ := run_field hfield frames before fresh
      rw [List.map_append, List.nodup_append] at hnames
      have hnew : field.1 ∉ before.map (·.1) := fun h => hnames.2.2 _ h field.1 (by simp) rfl
      rw [String.intercalate_singleton, List.foldlM_append, hrun]
      simp [run_field_close hs hnew]
  | @cons next nextText fields texts hnext _ ih =>
      obtain ⟨s, hrun, hs⟩ := run_field hfield frames before fresh
      have hrest := ih hnext (before ++ [field]) false (by simpa using hnames)
      rw [List.map_append, List.nodup_append] at hnames
      have hnew : field.1 ∉ before.map (·.1) := fun h => hnames.2.2 _ h field.1 (by simp) rfl
      rw [toList_intercalate_cons_cons, List.append_assoc, List.append_assoc, List.foldlM_append,
        hrun]
      change ([',', ' '] ++ _).foldlM State.step s = _
      rw [List.foldlM_append, run_field_comma hs hnew]
      simpa using hrest

theorem reads_dict
    {fields : Fields} {texts : List String} (hfields : List.Forall₂ ReadsField fields texts)
    (hnames : (fields.map (·.1)).Nodup) :
    Reads ("\x7b" ++ ", ".intercalate texts ++ "\x7d").toList (.dict fields.toEntries) := by
  intro frames fresh
  have hopen : State.step ⟨frames, .value fresh⟩ '\x7b' = some ⟨frames, .name [] true⟩ := by
    simp [State.step, State.due, isBlank, isBareChar]
  refine ⟨_, ?_, .whole⟩
  rw [String.toList_append, String.toList_append, List.append_assoc]
  change ('\x7b' :: _).foldlM State.step _ = _
  rw [List.foldlM_cons, hopen]
  cases hfields with
  | nil => simp [State.step, isBlank]
  | cons hfield hfields => exact run_fields hfield hfields [] true hnames

end

/-! ## Documents -/

/-- A document of nothing, truth values, integers, texts, lists, and mappings from texts. -/
inductive IsDocument : Value → Prop
  | null : IsDocument .null
  | bool (b : Bool) : IsDocument (.bool b)
  | int (n : Int) : IsDocument (.int n)
  | text (s : String) : IsDocument (.text s)
  | list {items : List Value} (hitems : ∀ v ∈ items, IsDocument v) : IsDocument (.list items)
  | dict (fields : Fields) (hnames : (fields.map (·.1)).Nodup)
      (hfields : ∀ field ∈ fields, IsDocument field.2) : IsDocument (.dict fields.toEntries)

theorem exists_mapM
    {α β : Type} {f : α → Option β} {R : α → β → Prop} {as : List α}
    (hf : ∀ a ∈ as, ∃ b, f a = some b ∧ R a b) :
    ∃ bs, as.mapM f = some bs ∧ List.Forall₂ R as bs := by
  induction as with
  | nil => exact ⟨[], rfl, .nil⟩
  | cons a as ih =>
      obtain ⟨⟨b, hb, hR⟩, has⟩ := List.forall_mem_cons.mp hf
      obtain ⟨bs, hbs, hall⟩ := ih has
      refine ⟨b :: bs, ?_, .cons hR hall⟩
      rw [List.mapM_cons, hb, hbs]
      rfl

/-- A document is read back from its JSON text, wherever that stands. -/
theorem exists_jsonText
    {v : Value} (hv : IsDocument v) :
    ∃ text, v.jsonText? = some text ∧ Reads text.toList v := by
  induction hv with
  | null => exact ⟨"null", rfl, .of_word (by decide) rfl⟩
  | bool b => cases b <;> exact ⟨_, rfl, .of_word (by decide) rfl⟩
  | int n =>
      exact ⟨toString n, rfl, .of_word (Number.isNumber_toString n).isBare (word?_toString n)⟩
  | text s => exact ⟨jsonString s, rfl, reads_jsonString s⟩
  | list _ ih =>
      obtain ⟨texts, htexts, hitems⟩ := exists_mapM ih
      rw [← Value.jsonItems?_eq_mapM] at htexts
      refine ⟨_, ?_, reads_list hitems⟩
      simp [Value.jsonText?, htexts]
  | dict fields hnames _ ih =>
      have hentries : ∀ field ∈ fields, ∃ text,
          Value.jsonEntry? (.text field.1, field.2) = some text ∧ ReadsField field text := by
        intro field hfield
        obtain ⟨text, htext, hreads⟩ := ih field hfield
        refine ⟨jsonString field.1 ++ ": " ++ text, ?_, text, rfl, hreads⟩
        simp [Value.jsonEntry?, Value.jsonKey?, htext]
      obtain ⟨texts, htexts, hfields⟩ := exists_mapM hentries
      have hwritten : Value.jsonEntries? fields.toEntries = some texts := by
        rw [Value.jsonEntries?_eq_mapM, Fields.toEntries, List.mapM_map]
        exact htexts
      refine ⟨_, ?_, reads_dict hfields hnames⟩
      simp [Value.jsonText?, hwritten]

end Json

end SqlBuilder
