import SqlBuilder.Proofs.Schema.LiteralText

/-!
# What is a literal

A literal is one of three words, a number, a text between single quotes in which
every quote is doubled, or a list of literals in brackets.  What is written for a
default is such a literal, unless a number that is not finite is written in it:
its bare word is a name to the database.
-/

namespace SqlBuilder

open Text

/-! ## The grammar -/

/-- A text in which every quote stands together with a second one. -/
inductive HasDoubled (q : Char) : List Char → Prop
  | nil : HasDoubled q []
  | other {c : Char} {cs : List Char} (hc : c ≠ q) (hcs : HasDoubled q cs) : HasDoubled q (c :: cs)
  | quote {cs : List Char} (hcs : HasDoubled q cs) : HasDoubled q (q :: q :: cs)

inductive IsLiteral : String → Prop
  | word {s : String} (hs : s ∈ ["NULL", "TRUE", "FALSE"]) : IsLiteral s
  | number {s : String} (hs : Number.IsNumber s.toList) : IsLiteral s
  | quoted {s : String} (hs : HasDoubled '\'' s.toList) : IsLiteral ("'" ++ s ++ "'")
  | array {texts : List String} (hne : texts ≠ []) (htexts : ∀ s ∈ texts, IsLiteral s) :
      IsLiteral ("ARRAY[" ++ commaSeparated texts ++ "]")

namespace HasDoubled

variable {q : Char}

theorem doubled
    (s : List Char) : HasDoubled q (Text.doubled q s) := by
  induction s with
  | nil => exact nil
  | cons c s ih =>
      by_cases hc : c = q
      case pos =>
        subst hc
        rw [doubled_cons_self]
        exact quote ih
      case neg =>
        rw [doubled_cons_of_ne hc]
        exact other hc ih

theorem exists_doubled
    {cs : List Char} (hcs : HasDoubled q cs) : ∃ s, Text.doubled q s = cs := by
  induction hcs with
  | nil => exact ⟨[], rfl⟩
  | @other c _ hc _ ih =>
      obtain ⟨s, rfl⟩ := ih
      exact ⟨c :: s, doubled_cons_of_ne hc s⟩
  | quote _ ih =>
      obtain ⟨s, rfl⟩ := ih
      exact ⟨q :: s, doubled_cons_self q s⟩

end HasDoubled

theorem Literal.quoted_eq
    (s : String) : quoted s = "'" ++ String.ofList (doubled '\'' s.toList) ++ "'" := by
  apply String.toList_inj.mp
  simp [quoted, Text.quoted]

theorem Literal.isLiteral_quoted
    (s : String) : IsLiteral (quoted s) := by
  rw [quoted_eq]
  apply IsLiteral.quoted
  rw [String.toList_ofList]
  exact .doubled s.toList

/-! ## How literals begin -/

/-- Whether a literal can begin so. -/
def beginsLiteral : List Char → Bool
  | [] => false
  | c :: cs =>
    c.isDigit || ['N', 'T', 'F', 'A', '\''].contains c ||
      ((c == '-' || c == '+') && cs.head?.any Char.isDigit)

theorem Number.IsNumber.begins
    {cs : List Char} (hcs : IsNumber cs) :
    ∃ c ds, cs = c :: ds ∧ (c.isDigit = true ∨
      ((c = '-' ∨ c = '+') ∧ ds.head?.any Char.isDigit = true)) := by
  obtain ⟨hsign, hwhole, hfraction, hexponent⟩ := hcs
  obtain ⟨d, ds, rfl⟩ := List.exists_cons_of_ne_nil hwhole.nonempty
  have hd := hwhole.digits d List.mem_cons_self
  cases hsign with
  | none => exact ⟨d, _, rfl, .inl hd⟩
  | minus => exact ⟨'-', _, rfl, .inr ⟨.inl rfl, by simpa using hd⟩⟩
  | plus => exact ⟨'+', _, rfl, .inr ⟨.inr rfl, by simpa using hd⟩⟩

theorem IsLiteral.begins
    {s : String} (hs : IsLiteral s) : beginsLiteral s.toList = true := by
  cases hs with
  | word hs =>
      revert s
      decide
  | number hs =>
      obtain ⟨c, cs, heq, hc | ⟨hc, hcs⟩⟩ := hs.begins
      · simp [heq, beginsLiteral, hc]
      · rcases hc with rfl | rfl <;> simp [heq, beginsLiteral, hcs]
  | quoted hs => simp [beginsLiteral]
  | array hne htexts => simp [beginsLiteral]

theorem IsLiteral.head_ne_blank
    {s : String} (hs : IsLiteral s) : ∃ c cs, s.toList = c :: cs ∧ c ≠ ' ' := by
  have hbegins := hs.begins
  cases hcs : s.toList with
  | nil => simp [hcs, beginsLiteral] at hbegins
  | cons c cs =>
      refine ⟨c, cs, rfl, ?_⟩
      rintro rfl
      simp [hcs, beginsLiteral] at hbegins

/-! ## Literals are whole -/

theorem IsLiteral.isWhole
    {s : String} (hs : IsLiteral s) : IsWhole s := by
  induction hs with
  | @word s hs =>
      apply IsBare.isWhole
      revert s
      decide
  | number hs => exact hs.isBare.isWhole
  | @quoted s hs =>
      obtain ⟨inner, hinner⟩ := hs.exists_doubled
      have hwhole := Literal.isWhole_quoted (String.ofList inner)
      simpa [IsWhole, Literal.quoted, Text.quoted, hinner] using hwhole
  | array hne htexts ih => exact Literal.isWhole_bracketed ih

/-- What is listed in brackets is a literal if and only if every text in the list is. -/
theorem isLiteral_bracketed_iff
    {texts : List String} (hne : texts ≠ []) (hwhole : ∀ s ∈ texts, IsWhole s)
    (hhead : ∀ s ∈ texts, ∃ c cs, s.toList = c :: cs ∧ c ≠ ' ') :
    IsLiteral ("ARRAY[" ++ commaSeparated texts ++ "]") ↔ ∀ s ∈ texts, IsLiteral s := by
  refine ⟨?_, .array hne⟩
  intro hliteral
  generalize htext : "ARRAY[" ++ commaSeparated texts ++ "]" = text at hliteral
  have hchars := congrArg String.toList htext
  have hfirst : text.toList.head? = some 'A' := by simp [← hchars]
  cases hliteral with
  | word hs =>
      have hwords : ∀ word ∈ ["NULL", "TRUE", "FALSE"], word.toList.head? ≠ some 'A' := by decide
      exact absurd hfirst (hwords text hs)
  | number hs =>
      obtain ⟨c, cs, heq, hc⟩ := hs.begins
      obtain rfl : c = 'A' := by simpa [heq] using hfirst
      exact absurd hc (by simp [Char.isDigit])
  | quoted hs => exact absurd hfirst (by simp)
  | @array others hne' hothers =>
      have hlists : commaSeparated texts = commaSeparated others := by
        apply String.toList_inj.mp
        simpa using hchars
      have hleft := items_commaSeparated (fun s hs => (hwhole s hs).mono (by simp)) hhead
      have hright := items_commaSeparated (fun s hs => (hothers s hs).isWhole.mono (by simp))
        fun s hs => (hothers s hs).head_ne_blank
      rw [hlists, hright] at hleft
      have hsame := List.map_injective_iff.mpr (fun _ _ => String.toList_inj.mp) hleft
      exact hsame ▸ hothers

/-! ## What is written for defaults -/

/-- A number that is not finite. -/
def Value.IsNonFinite : Value → Prop
  | .float x => x.isFinite = false
  | _ => False

namespace Literal

/-- Whether what is written for the default `v` has a number in it that is not finite. -/
def WritesNonFinite : ColumnType → Value → Prop
  | .json, _ => False
  | .array _, v => ∃ items, v.listed? = some items ∧ ∃ item ∈ items, item.IsNonFinite
  | _, v => v.IsNonFinite

variable {t : ColumnType} {columnName v : Value} {s : String}

theorem json_eq_ok :
    json v = .ok s ↔ ∃ text, v.jsonText? = some text ∧ quoted text = s := by
  unfold json
  cases v.jsonText? <;> simp

theorem isLiteral_json
    (hs : json v = .ok s) : IsLiteral s := by
  obtain ⟨text, _, rfl⟩ := json_eq_ok.mp hs
  exact isLiteral_quoted text

theorem isLiteral_scalar
    (hs : scalar columnName v = .ok s) (hfinite : ¬ v.IsNonFinite) : IsLiteral s := by
  unfold scalar at hs
  split at hs
  case h_1 => exact Except.ok.inj hs ▸ .word (by simp)
  case h_2 b =>
    obtain rfl := Except.ok.inj hs
    cases b <;> exact .word (by simp)
  case h_3 n => exact Except.ok.inj hs ▸ .number (Number.isNumber_toString n)
  case h_4 x =>
    have hx : x.isFinite = true := by simpa [Value.IsNonFinite] using hfinite
    exact Except.ok.inj hs ▸ .number (Binary64.isNumber_textWith hx "inf" "nan")
  case h_5 | h_6 | h_7 | h_8 | h_9 => exact Except.ok.inj hs ▸ isLiteral_quoted _
  case h_10 | h_11 => exact isLiteral_json hs
  case h_12 => exact absurd hs (Outcome.reject_ne_ok _ _)

/-- Such a number is written as a bare word. -/
theorem scalar_of_isNonFinite
    (hs : scalar columnName v = .ok s) (hv : v.IsNonFinite) :
    s ∈ ["nan", "inf", "-inf"] := by
  cases v with
  | float x =>
      obtain rfl := Except.ok.inj hs
      cases x with
      | finite negative m e => simp [Value.IsNonFinite, Binary64.isFinite] at hv
      | infinite negative => cases negative <;> decide
      | nan => decide
  | _ => exact absurd hv id

theorem isLiteral_scalar_iff
    (hs : scalar columnName v = .ok s) : IsLiteral s ↔ ¬ v.IsNonFinite := by
  refine ⟨?_, isLiteral_scalar hs⟩
  intro hliteral hv
  have hwords : ∀ word ∈ ["nan", "inf", "-inf"], beginsLiteral word.toList = false := by decide
  have hbegins := hliteral.begins
  rw [hwords s (scalar_of_isNonFinite hs hv)] at hbegins
  exact absurd hbegins (by decide)

/-- Literal or not, the text of a scalar is whole and begins without a blank. -/
theorem isWhole_scalar
    (hs : scalar columnName v = .ok s) : IsWhole s ∧ ∃ c cs, s.toList = c :: cs ∧ c ≠ ' ' := by
  by_cases hv : v.IsNonFinite
  case pos =>
    have hword := scalar_of_isNonFinite hs hv
    simp only [List.mem_cons, List.not_mem_nil, or_false] at hword
    rcases hword with rfl | rfl | rfl <;>
      exact ⟨(by decide : IsBare _).isWhole, _, _, rfl, by decide⟩
  case neg =>
    have hliteral := isLiteral_scalar hs hv
    exact ⟨hliteral.isWhole, hliteral.head_ne_blank⟩

/-- An array is written as an empty text or as the texts of its items in brackets. -/
theorem array_eq_ok
    (hs : array columnName v = .ok s) :
    (v.listed? = some [] ∧ s = quoted "\x7b\x7d") ∨
      ∃ items texts, v.listed? = some items ∧ items.mapM (scalar columnName) = .ok texts ∧
        texts ≠ [] ∧ s = "ARRAY[" ++ commaSeparated texts ++ "]" := by
  unfold array at hs
  split at hs
  next => exact absurd hs (Outcome.reject_ne_ok _ _)
  next hitems => exact .inl ⟨hitems, (Except.ok.inj hs).symm⟩
  next items hne hitems =>
    obtain ⟨texts, htexts, hs⟩ := Outcome.bind_eq_ok.mp hs
    refine .inr ⟨items, texts, hitems, htexts, ?_, (Outcome.pure_eq_ok.mp hs).symm⟩
    rintro rfl
    obtain ⟨item, hitem⟩ := List.exists_mem_of_ne_nil items hne
    obtain ⟨text, htext, _⟩ := (Outcome.mem_of_mapM_eq_ok htexts).1 item hitem
    exact absurd htext List.not_mem_nil

theorem isLiteral_array_iff
    (hs : array columnName v = .ok s) :
    IsLiteral s ↔ ¬ ∃ items, v.listed? = some items ∧ ∃ item ∈ items, item.IsNonFinite := by
  rcases array_eq_ok hs with ⟨hitems, rfl⟩ | ⟨items, texts, hitems, htexts, hne, rfl⟩
  · simp [hitems, isLiteral_quoted]
  · obtain ⟨hgiven, hwritten⟩ := Outcome.mem_of_mapM_eq_ok htexts
    have hwhole : ∀ text ∈ texts, IsWhole text ∧ ∃ c cs, text.toList = c :: cs ∧ c ≠ ' ' := by
      intro text htext
      obtain ⟨item, _, hitem⟩ := hwritten text htext
      exact isWhole_scalar hitem
    rw [isLiteral_bracketed_iff hne (fun text htext => (hwhole text htext).1)
      fun text htext => (hwhole text htext).2]
    constructor
    · rintro hliterals ⟨others, hothers, item, hitem, hv⟩
      obtain rfl := Option.some.inj (hitems.symm.trans hothers)
      obtain ⟨text, htext, hscalar⟩ := hgiven item hitem
      exact (isLiteral_scalar_iff hscalar).mp (hliterals text htext) hv
    · intro hfinite text htext
      obtain ⟨item, hitem, hscalar⟩ := hwritten text htext
      exact isLiteral_scalar hscalar fun hv => hfinite ⟨items, hitems, item, hitem, hv⟩

theorem isWhole_render
    (hs : render t columnName v = .ok s) : IsWhole s := by
  unfold render at hs
  split at hs
  next => exact Except.ok.inj hs ▸ (by decide : IsBare "NULL").isWhole
  next => exact (isLiteral_json hs).isWhole
  next =>
    rcases array_eq_ok hs with ⟨_, rfl⟩ | ⟨items, texts, _, htexts, _, rfl⟩
    · exact isWhole_quoted _
    · apply isWhole_bracketed
      intro text htext
      obtain ⟨item, _, hitem⟩ := (Outcome.mem_of_mapM_eq_ok htexts).2 text htext
      exact (isWhole_scalar hitem).1
  next => exact (isWhole_scalar hs).1

theorem not_writesNonFinite_null
    (t : ColumnType) : ¬ WritesNonFinite t .null := by
  cases t <;> simp [WritesNonFinite, Value.listed?, Value.IsNonFinite]

/-- What is written for a default is one literal, if and only if no number that is not finite is
written in it. -/
theorem isLiteral_render_iff
    {t : ColumnType} {columnName v : Value} {s : String} (hs : render t columnName v = .ok s) :
    IsLiteral s ↔ ¬ WritesNonFinite t v := by
  unfold render at hs
  split at hs
  next =>
    have hliteral : IsLiteral s := Except.ok.inj hs ▸ .word (by simp)
    exact iff_of_true hliteral (not_writesNonFinite_null t)
  next => exact iff_of_true (isLiteral_json hs) id
  next => exact isLiteral_array_iff hs
  next hjson harray _ =>
    cases t with
    | json => exact absurd rfl hjson
    | array kind => exact absurd rfl (harray kind)
    | bare | primitive | uuid | enumerated => exact isLiteral_scalar_iff hs

theorem isLiteral_render_items :
    let large : Value := .float (.finite false 5000000000000000 1)
    (∃ s, render (.array .number) .null (.list [.int (-3), large]) = .ok s ∧
      s = "ARRAY[-3, 1e+16]" ∧ IsLiteral s) ∧
    ∃ s, render (.array .number) .null (.list [.int 1, .float (.infinite true)]) = .ok s ∧
      s = "ARRAY[1, -inf]" ∧ ¬ IsLiteral s := by
  intro large
  constructor
  · obtain ⟨s, hs⟩ : ∃ s, render (.array .number) .null (.list [.int (-3), large]) = .ok s :=
      ⟨_, rfl⟩
    refine ⟨s, hs, ?_, (isLiteral_render_iff hs).mpr ?_⟩
    · rw [← Except.ok.inj hs]
      decide +kernel
    · simp [large, WritesNonFinite, Value.listed?, Value.IsNonFinite, Binary64.isFinite]
  · obtain ⟨s, hs⟩ : ∃ s, render (.array .number) .null
        (.list [.int 1, .float (.infinite true)]) = .ok s := ⟨_, rfl⟩
    refine ⟨s, hs, ?_, ?_⟩
    · rw [← Except.ok.inj hs]
      decide +kernel
    · intro hliteral
      refine (isLiteral_render_iff hs).mp hliteral ⟨_, rfl, .float (.infinite true), ?_, rfl⟩
      simp

end Literal

end SqlBuilder
