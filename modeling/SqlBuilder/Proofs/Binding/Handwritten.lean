import SqlBuilder.Proofs.Binding.Agreement
import SqlBuilder.Proofs.Binding.Quoting

/-!
# Hand-written statements with named binds

In a statement that somebody wrote, anything may stand around a mark.  A backslash
before it takes the meaning from the bind in its place, and a colon before it is one
that was escaped, which does not help: it hinders the bind all the same, and the
bind keeps the escape from being taken away again.  Everywhere else a mark becomes
a bind, and the text is printed as it was written.
-/

namespace SqlBuilder.Binding

open Text

/-- A number after a dollar sign, with what stands right before and right after. -/
structure Mark where
  before : Option Char
  digits : List Char
  after : Option Char

namespace Mark

/-- The marks outside quotes, in a text that `before` comes before. -/
def read (inside : Option Quote) (before : Option Char) : List Char → List Mark
  | [] => []
  | c :: cs =>
    (if StartsMark inside c cs then
        [⟨before, cs.takeWhile isDigit, (cs.dropWhile isDigit).head?⟩]
      else [])
      ++ read (quoteAfter inside c cs) (some c) cs

def all (sql : String) : List Mark := read none none sql.toList

/-- Whether digits are a number from one to `count`, written without a leading zero. -/
def isNumeral (count : Nat) (digits : List Char) : Bool :=
  digits ∈ (List.range' 1 count).map (Nat.toDigits 10)

/-- Nothing around a mark takes the meaning from a bind in its place, or goes on with its name. -/
structure IsOpen (m : Mark) : Prop where
  before : m.before.any hindersBind = false
  after : ∀ c ∈ m.after, isWord c = false

def bindName (m : Mark) : List Char := 'p' :: m.digits

theorem isWord_of_isNumeral {count : Nat} {digits : List Char} (h : isNumeral count digits = true)
    {c : Char} (hc : c ∈ digits) : isWord c = true := by
  unfold isNumeral at h
  obtain ⟨n, _, rfl⟩ := List.mem_map.mp (of_decide_eq_true h)
  exact Token.isWord_of_mem_toDigits hc

theorem read_of_startsMark {inside : Option Quote} {c : Char} {cs : List Char}
    (hstarts : StartsMark inside c cs) (before : Option Char) :
    read inside before (c :: cs) =
      ⟨before, cs.takeWhile isDigit, (cs.dropWhile isDigit).head?⟩ ::
        read none (some '$') cs := by
  obtain ⟨rfl, rfl, hdigits⟩ := hstarts
  rw [read, if_pos ⟨rfl, rfl, hdigits⟩]
  rfl

theorem read_of_not_startsMark {inside : Option Quote} {c : Char} {cs : List Char}
    (hnot : ¬ StartsMark inside c cs) (before : Option Char) :
    read inside before (c :: cs) = read (quoteAfter inside c cs) (some c) cs := by
  rw [read, if_neg hnot]
  rfl

theorem not_startsMark_of_isDigit {inside : Option Quote} {c : Char} (hc : isDigit c = true)
    (cs : List Char) : ¬ StartsMark inside c cs := by
  refine not_startsMark_of_ne ?_
  rintro rfl
  exact absurd hc (by decide)

/-- No mark starts among digits. -/
theorem read_digits {ds : List Char} (hds : ∀ c ∈ ds, isDigit c = true) (hnonempty : ds ≠ [])
    (before : Option Char) (rest : List Char) :
    read none before (ds ++ rest) = read none ds.getLast? rest := by
  induction ds generalizing before with
  | nil => exact absurd rfl hnonempty
  | cons d ds ih =>
      obtain ⟨hd, hothers⟩ := List.forall_mem_cons.mp hds
      rw [List.cons_append, read_of_not_startsMark (not_startsMark_of_isDigit hd _),
        quoteAfter_of_isDigit hd]
      cases ds with
      | nil => rfl
      | cons e ds => exact ih hothers (List.cons_ne_nil e ds) (some d)

theorem read_takeWhile {cs : List Char} (hdigits : cs.takeWhile isDigit ≠ [])
    (before : Option Char) :
    read none before cs =
      read none (cs.takeWhile isDigit).getLast? (cs.dropWhile isDigit) := by
  rw [← read_digits (fun c hc => List.all_eq_true.mp List.all_takeWhile c hc) hdigits before,
    List.takeWhile_append_dropWhile]

end Mark

/-! ## Binds in the text that is handed on -/

theorem handedOn_of_startsMark {inside : Option Quote} {c : Char} {cs : List Char}
    (hstarts : StartsMark inside c cs) :
    handedOn inside (c :: cs) = ':' :: 'p' :: handedOn none cs := by
  obtain ⟨rfl, rfl, hdigits⟩ := hstarts
  rw [handedOn, if_pos ⟨rfl, rfl, hdigits⟩]
  rfl

theorem handedOn_colon (inside : Option Quote) (cs : List Char) :
    handedOn inside (':' :: cs) = '\\' :: ':' :: handedOn inside cs := by
  rw [handedOn, if_neg (not_startsMark_of_ne (by decide)), if_pos rfl,
    quoteAfter_neutral inside (.inl rfl)]
  rfl

theorem handedOn_of_ne {inside : Option Quote} {c : Char} {cs : List Char}
    (hnot : ¬ StartsMark inside c cs) (hc : c ≠ ':') :
    handedOn inside (c :: cs) = c :: handedOn (quoteAfter inside c cs) cs := by
  rw [handedOn, if_neg hnot, if_neg hc]
  rfl

theorem handedOn_takeWhile (cs : List Char) :
    handedOn none cs = cs.takeWhile isDigit ++ handedOn none (cs.dropWhile isDigit) := by
  have hds : ∀ c ∈ cs.takeWhile isDigit, isDigit c = true :=
    fun c hc => List.all_eq_true.mp List.all_takeWhile c hc
  have hcolon : ':' ∉ cs.takeWhile isDigit := fun h => absurd (hds ':' h) (by decide)
  conv_lhs => rw [← List.takeWhile_append_dropWhile (p := isDigit) (l := cs)]
  rw [← renamed_escaped, escaped_append, escaped_of_notMem hcolon, renamed_digits _ hds,
    renamed_escaped]

/-- The name of a bind is all of a word if neither a word nor a colon goes on. -/
theorem word?_bindName_iff {count : Nat} {digits : List Char}
    (hnumeral : Mark.isNumeral count digits = true) (tail : List Char) :
    word? ('p' :: (digits ++ tail)) = some ('p' :: digits) ↔
      ∀ c ∈ tail.head?, isWord c = false ∧ c ≠ ':' := by
  have hwords : ∀ c ∈ 'p' :: digits, isWord c = true :=
    List.forall_mem_cons.mpr ⟨by decide, fun c hc => Mark.isWord_of_isNumeral hnumeral hc⟩
  rw [← List.cons_append]
  unfold word?
  rw [List.takeWhile_append_of_pos hwords, List.dropWhile_append_of_pos hwords]
  cases tail with
  | nil => simp
  | cons c tail => cases hword : isWord c <;> simp [hword]

/-- After the number of a mark the text goes on neither to a word nor to a colon, if no word was
written there: a colon that was has been escaped, and no open mark follows at once. -/
theorem head_handedOn_after
    {digits rest : List Char} (hdigits : digits ≠ []) (hwords : ∀ c ∈ digits, isWord c = true)
    (hafter : ∀ c ∈ rest.head?, isWord c = false)
    (hmarks : ∀ m ∈ Mark.read none digits.getLast? rest, m.IsOpen) :
    ∀ c ∈ (handedOn none rest).head?, isWord c = false ∧ c ≠ ':' := by
  cases rest with
  | nil => simp [handedOn]
  | cons c rest =>
      by_cases hstarts : StartsMark none c rest
      · rw [Mark.read_of_startsMark hstarts, List.getLast?_eq_some_getLast hdigits] at hmarks
        have hlast := (hmarks _ List.mem_cons_self).before
        simp [hindersBind, hwords _ (List.getLast_mem hdigits)] at hlast
      · by_cases hc : c = ':'
        · subst hc
          rw [handedOn_colon]
          intro d hd
          obtain rfl : '\\' = d := Option.some.inj hd
          exact ⟨by decide, by decide⟩
        · rw [handedOn_of_ne hstarts hc]
          intro d hd
          obtain rfl : c = d := Option.some.inj hd
          exact ⟨hafter c rfl, hc⟩

theorem head_handedOn_of_isWord {c : Char} (hc : isWord c = true) (rest : List Char) :
    (handedOn none (c :: rest)).head? = some c := by
  have hplain : c ≠ '$' ∧ c ≠ ':' := by
    constructor <;> (rintro rfl; exact absurd hc (by decide))
  rw [handedOn_of_ne (not_startsMark_of_ne hplain.1) hplain.2]
  rfl

theorem bindNames_handedOn_of_startsMark
    {inside : Option Quote} {c : Char} {cs : List Char} (hstarts : StartsMark inside c cs)
    (hindered : Bool) :
    bindNames hindered (handedOn inside (c :: cs)) =
      (if hindered then none else word? ('p' :: handedOn none cs)).toList
        ++ bindNames (hindersBind 'p') (handedOn none cs) := by
  have hp : bindNames (hindersBind ':') ('p' :: handedOn none cs) =
      bindNames (hindersBind 'p') (handedOn none cs) := by
    rw [bindNames]
    simp
  rw [handedOn_of_startsMark hstarts, bindNames, hp]
  cases hindered with
  | true => simp
  | false =>
      cases hword : word? ('p' :: handedOn none cs) with
      | none => simp
      | some name =>
          cases name with
          | cons c name => simp
          | nil =>
              have hletter : isWord 'p' = true := by decide
              unfold word? at hword
              split at hword <;> simp [hletter] at hword

theorem bindNames_handedOn_of_not_startsMark
    {inside : Option Quote} {c : Char} {cs : List Char} (hnot : ¬ StartsMark inside c cs)
    (hindered : Bool) :
    bindNames hindered (handedOn inside (c :: cs)) =
      bindNames (hindersBind c) (handedOn (quoteAfter inside c cs) cs) := by
  by_cases hc : c = ':'
  · subst hc
    have hslash : hindersBind '\\' = true := by decide
    rw [handedOn_colon, bindNames, bindNames, quoteAfter_neutral inside (.inl rfl)]
    simp [hslash]
  · rw [handedOn_of_ne hnot hc, bindNames]
    simp [hc]

theorem length_bindNames_handedOn_le
    (hindered : Bool) (inside : Option Quote) (before : Option Char) (cs : List Char) :
    (bindNames hindered (handedOn inside cs)).length ≤ (Mark.read inside before cs).length := by
  induction cs generalizing hindered inside before with
  | nil => exact Nat.le_refl 0
  | cons c cs ih =>
      by_cases hstarts : StartsMark inside c cs
      · rw [bindNames_handedOn_of_startsMark hstarts, Mark.read_of_startsMark hstarts,
          List.length_append, List.length_cons]
        have hrest := ih (hindersBind 'p') none (some '$')
        have hone := Option.length_toList_le
          (o := if hindered then none else word? ('p' :: handedOn none cs))
        omega
      · rw [bindNames_handedOn_of_not_startsMark hstarts, Mark.read_of_not_startsMark hstarts]
        exact ih _ _ _

/-- Where the marks after it are open, a mark becomes a bind of its own name just if it is open. -/
theorem bound_iff_isOpen
    {count : Nat} {before : Option Char} {cs : List Char}
    (hnumeral : Mark.isNumeral count (cs.takeWhile isDigit) = true)
    (hdigits : cs.takeWhile isDigit ≠ [])
    (hothers : ∀ m ∈ Mark.read none (some '$') cs, m.IsOpen) :
    (if before.any hindersBind then none else word? ('p' :: handedOn none cs)) =
        some ('p' :: cs.takeWhile isDigit) ↔
      Mark.IsOpen ⟨before, cs.takeWhile isDigit, (cs.dropWhile isDigit).head?⟩ := by
  have hwhole := word?_bindName_iff hnumeral (handedOn none (cs.dropWhile isDigit))
  rw [← handedOn_takeWhile] at hwhole
  rw [Mark.read_takeWhile hdigits] at hothers
  have hwords : ∀ c ∈ cs.takeWhile isDigit, isWord c = true :=
    fun c hc => Mark.isWord_of_isNumeral hnumeral hc
  constructor
  · intro hbound
    have hfree : before.any hindersBind = false := by
      cases hbefore : before.any hindersBind with
      | false => rfl
      | true => simp [hbefore] at hbound
    rw [hfree] at hbound
    have hhead := hwhole.mp hbound
    refine ⟨hfree, fun c hc => ?_⟩
    obtain ⟨rest, hrest⟩ := List.head?_eq_some_iff.mp hc
    rw [hrest] at hhead
    -- a word that goes on is handed on as it is, so it would belong to the name
    cases hword : isWord c with
    | false => rfl
    | true => exact hword ▸ (hhead c (head_handedOn_of_isWord hword rest)).1
  · rintro ⟨hfree, hafter⟩
    have hfree : before.any hindersBind = false := hfree
    rw [hfree]
    exact hwhole.mpr (head_handedOn_after hdigits hwords hafter hothers)

/-- Every mark has become a bind, and nothing else has, if and only if all marks are open. -/
theorem bindNames_handedOn_iff
    {count : Nat} {inside : Option Quote} {before : Option Char} {cs : List Char}
    (hnumerals : ∀ m ∈ Mark.read inside before cs, Mark.isNumeral count m.digits = true)
    (hindered : Bool) (hstart : cs.head? = some '$' → hindered = before.any hindersBind) :
    bindNames hindered (handedOn inside cs) =
        (Mark.read inside before cs).map Mark.bindName ↔
      ∀ m ∈ Mark.read inside before cs, m.IsOpen := by
  induction cs generalizing inside before hindered with
  | nil => simp [handedOn, bindNames, Mark.read]
  | cons c cs ih =>
      by_cases hstarts : StartsMark inside c cs
      · rw [Mark.read_of_startsMark hstarts] at hnumerals ⊢
        rw [bindNames_handedOn_of_startsMark hstarts, List.map_cons, List.forall_mem_cons]
        obtain ⟨hnumeral, hothers⟩ := List.forall_mem_cons.mp hnumerals
        obtain ⟨rfl, rfl, hdigits⟩ := hstarts
        have hfirst : cs.head? ≠ some '$' := by
          intro hhead
          obtain ⟨rest, rfl⟩ := List.head?_eq_some_iff.mp hhead
          exact hdigits (by simp [isDigit_of_ascii])
        have hrest := ih hothers (hindersBind 'p') (fun h => absurd h hfirst)
        have hfewer := length_bindNames_handedOn_le (hindersBind 'p') none (some '$') cs
        rw [hstart rfl]
        constructor
        · intro hbinds
          cases hbound : if before.any hindersBind then none
              else word? ('p' :: handedOn none cs) with
          | none =>
              have hlength := congrArg List.length hbinds
              simp [hbound] at hlength
              omega
          | some name =>
              rw [hbound] at hbinds
              obtain ⟨rfl, hlater⟩ := List.cons.inj hbinds
              have hopen := hrest.mp hlater
              exact ⟨(bound_iff_isOpen hnumeral hdigits hopen).mp hbound, hopen⟩
        · rintro ⟨hmark, hopen⟩
          rw [(bound_iff_isOpen hnumeral hdigits hopen).mpr hmark, hrest.mpr hopen]
          rfl
      · rw [Mark.read_of_not_startsMark hstarts] at hnumerals ⊢
        rw [bindNames_handedOn_of_not_startsMark hstarts]
        exact ih hnumerals (hindersBind c) (fun _ => rfl)

/-! ## The text that is printed -/

/-- Where something stands that hinders binds, the text goes on to no colon, not even after a word:
it would be that of a mark. -/
theorem head_dropWhile_handedOn
    {inside : Option Quote} {before : Option Char} {cs : List Char}
    (hmarks : ∀ m ∈ Mark.read inside before cs, m.IsOpen)
    (hbefore : before.any hindersBind = true) :
    ((handedOn inside cs).dropWhile isWord).head? ≠ some ':' := by
  induction cs generalizing inside before with
  | nil => simp [handedOn]
  | cons c cs ih =>
      by_cases hstarts : StartsMark inside c cs
      · rw [Mark.read_of_startsMark hstarts] at hmarks
        exact absurd hbefore (by simp [(hmarks _ List.mem_cons_self).before])
      · rw [Mark.read_of_not_startsMark hstarts] at hmarks
        by_cases hc : c = ':'
        · subst hc
          have hslash : isWord '\\' = false := by decide
          rw [handedOn_colon]
          simp [hslash]
        · rw [handedOn_of_ne hstarts hc]
          by_cases hword : isWord c = true
          · have hhinders : (some c).any hindersBind = true := by simp [hindersBind, hword]
            simpa [hword] using ih hmarks hhinders
          · simp [hword, hc]

theorem head_handedOn
    {inside : Option Quote} {before : Option Char} {cs : List Char}
    (hmarks : ∀ m ∈ Mark.read inside before cs, m.IsOpen)
    (hbefore : before.any hindersBind = true) : (handedOn inside cs).head? ≠ some ':' := by
  intro hhead
  obtain ⟨rest, hrest⟩ := List.head?_eq_some_iff.mp hhead
  have hcolon : isWord ':' = false := by decide
  exact head_dropWhile_handedOn hmarks hbefore (by simp [hrest, hcolon])

/-- The backslashes that were put before colons are taken away again, and no others. -/
theorem unescaped_handedOn
    {renames : List Char → Bool} {inside : Option Quote} {before : Option Char} {cs : List Char}
    (hmarks : ∀ m ∈ Mark.read inside before cs, renames m.digits = true ∧ m.IsOpen) :
    unescaped (handedOn inside cs) = renamed renames inside cs := by
  induction cs generalizing inside before with
  | nil => rfl
  | cons c cs ih =>
      by_cases hstarts : StartsMark inside c cs
      · rw [Mark.read_of_startsMark hstarts] at hmarks
        obtain ⟨⟨hrenames, -⟩, hothers⟩ := List.forall_mem_cons.mp hmarks
        rw [handedOn_of_startsMark hstarts, renamed, if_pos ⟨hstarts, hrenames⟩]
        obtain ⟨rfl, rfl, -⟩ := hstarts
        have hbind : unescaped ([':', 'p'] ++ handedOn none cs) = _ :=
          unescaped_of_notMem (by decide) (handedOn none cs)
        rw [ih hothers] at hbind
        exact hbind
      · rw [Mark.read_of_not_startsMark hstarts] at hmarks
        have hopen := fun m hm => (hmarks m hm).2
        rw [renamed_of_not_startsMark renames hstarts]
        by_cases hc : c = ':'
        · subst hc
          rw [quoteAfter_neutral inside (.inl rfl)] at hmarks hopen ⊢
          have hword : (word? (handedOn inside cs)).isSome = true := by
            simp [word?, head_dropWhile_handedOn hopen (by decide)]
          have hcolon : unescaped ([':'] ++ handedOn inside cs) = _ :=
            unescaped_of_notMem (by decide) (handedOn inside cs)
          rw [ih hmarks] at hcolon
          rw [handedOn_colon, unescaped, if_pos ⟨rfl, rfl, hword⟩]
          exact hcolon
        · have hkept : ¬ (c = '\\' ∧ (handedOn (quoteAfter inside c cs) cs).head? = some ':' ∧
              (word? (handedOn (quoteAfter inside c cs) cs).tail).isSome = true) := by
            rintro ⟨rfl, hhead, -⟩
            exact head_handedOn hopen (by decide) hhead
          rw [handedOn_of_ne hstarts hc, unescaped, if_neg hkept, ih hmarks]

/-! ## Dollars that are left -/

theorem count_dollar_unescaped (cs : List Char) : (unescaped cs).count '$' = cs.count '$' := by
  induction cs with
  | nil => rfl
  | cons c cs ih =>
      rw [unescaped]
      split
      next hc => simp [hc.1, ih]
      next => simp [List.count_cons, ih]

theorem count_dollar_handedOn (inside : Option Quote) (before : Option Char) (cs : List Char) :
    (handedOn inside cs).count '$' + (Mark.read inside before cs).length = cs.count '$' := by
  induction cs generalizing inside before with
  | nil => rfl
  | cons c cs ih =>
      by_cases hstarts : StartsMark inside c cs
      · rw [Mark.read_of_startsMark hstarts, handedOn_of_startsMark hstarts]
        obtain ⟨rfl, rfl, -⟩ := hstarts
        have hrest := ih none (some '$')
        simp
        omega
      · have hrest := ih (quoteAfter inside c cs) (some c)
        rw [Mark.read_of_not_startsMark hstarts]
        by_cases hc : c = ':'
        · subst hc
          rw [quoteAfter_neutral inside (.inl rfl)] at hrest ⊢
          rw [handedOn_colon]
          simpa using hrest
        · rw [handedOn_of_ne hstarts hc]
          simp only [List.count_cons]
          omega

theorem count_dollar_renamed
    (renames : List Char → Bool) (inside : Option Quote) (before : Option Char) (cs : List Char) :
    (renamed renames inside cs).count '$' +
      ((Mark.read inside before cs).filter (renames ·.digits)).length = cs.count '$' := by
  induction cs generalizing inside before with
  | nil => rfl
  | cons c cs ih =>
      have hrest := ih (quoteAfter inside c cs) (some c)
      by_cases hstarts : StartsMark inside c cs
      · rw [Mark.read_of_startsMark hstarts, renamed]
        obtain ⟨rfl, rfl, hdigits⟩ := hstarts
        have hsame : quoteAfter none '$' cs = none := rfl
        rw [hsame] at hrest ⊢
        by_cases hrenames : renames (cs.takeWhile isDigit) = true
        · rw [if_pos ⟨⟨rfl, rfl, hdigits⟩, hrenames⟩]
          simp [hrenames]
          omega
        · rw [if_neg (fun h => hrenames h.2)]
          simp [hrenames]
          omega
      · rw [Mark.read_of_not_startsMark hstarts, renamed_of_not_startsMark renames hstarts]
        simp only [List.count_cons]
        omega

/-- Where only the marks to rename are renamed, there are no others. -/
theorem renames_of_unescaped_handedOn
    {renames : List Char → Bool} {inside : Option Quote} {cs : List Char}
    (h : unescaped (handedOn inside cs) = renamed renames inside cs) (before : Option Char) :
    ∀ m ∈ Mark.read inside before cs, renames m.digits = true := by
  have hcounts := congrArg (List.count '$') h
  rw [count_dollar_unescaped] at hcounts
  have hall := count_dollar_handedOn inside before cs
  have hsome := count_dollar_renamed renames inside before cs
  have hlength : ((Mark.read inside before cs).filter (renames ·.digits)).length =
      (Mark.read inside before cs).length := by omega
  exact List.filter_eq_self.mp
    (List.Sublist.eq_of_length List.filter_sublist hlength)

theorem mem_numbered_iff {n : Nat} {vs : List Value} {name : String} {v : Value} :
    (name, v) ∈ numbered n vs ↔ ∃ k : Nat, vs[k]? = some v ∧ name = bindName (n + k) := by
  induction vs generalizing n with
  | nil => simp [numbered]
  | cons w vs ih =>
      rw [numbered, List.mem_cons, ih]
      constructor
      · rintro (hfirst | ⟨k, hk, rfl⟩)
        · obtain ⟨rfl, rfl⟩ := Prod.mk.inj hfirst
          exact ⟨0, rfl, rfl⟩
        · exact ⟨k + 1, by simpa using hk, by rw [Nat.add_assoc, Nat.add_comm 1 k]⟩
      · rintro ⟨k, hk, rfl⟩
        cases k with
        | zero =>
            obtain rfl : w = v := by simpa using hk
            exact .inl rfl
        | succ k => exact .inr ⟨k, by simpa using hk, by rw [Nat.add_assoc, Nat.add_comm 1 k]⟩

end SqlBuilder.Binding

namespace SqlBuilder.NamedStatement

open Binding

/-- Every mark with the number of a value has become a bind of that value, no other part of the text
is a bind, and the text is printed with those binds and otherwise as it was. -/
structure IsFaithful (s : NamedStatement) (sql : String) (parameters : List Value) : Prop where
  values : s.values = numbered 1 parameters
  binds : bindNames false s.source =
    ((Mark.all sql).filter (Mark.isNumeral parameters.length ·.digits)).map Mark.bindName
  text : s.text =
    String.ofList (renamed (Mark.isNumeral parameters.length) none sql.toList)

theorem ofMarks_eq_ok_iff {sql : String} {parameters : List Value} {s : NamedStatement} :
    ofMarks (.text sql) parameters = .ok s ↔
      s = ⟨namedText sql.toList, numbered 1 parameters⟩ ∧
        ∀ name ∈ s.structured, name ∈ s.binds := by
  have hrun : ∀ n : NamedStatement, n = ⟨namedText sql.toList, numbered 1 parameters⟩ →
      ofMarks (.text sql) parameters =
        if n.structured.all (fun name => name ∈ n.binds) = true then .ok n
        else .error .unusedBind := by
    rintro n rfl
    rfl
  rw [hrun _ rfl]
  split
  next hall =>
    have hnames := List.all_eq_true.mp hall
    simp only [decide_eq_true_eq] at hnames
    constructor
    · intro h
      obtain rfl := Except.ok.inj h
      exact ⟨rfl, hnames⟩
    · rintro ⟨rfl, -⟩
      rfl
  next hnot =>
    refine iff_of_false (by simp) ?_
    rintro ⟨rfl, hnames⟩
    exact hnot (by simpa [List.all_eq_true] using hnames)

theorem mem_binds_iff {s : NamedStatement} {name : String} :
    name ∈ s.binds ↔ name.toList ∈ bindNames false s.source := by
  unfold binds
  rw [List.mem_mergeSort, List.mem_eraseDups]
  constructor
  · intro h
    obtain ⟨found, hfound, rfl⟩ := List.mem_map.mp h
    rwa [String.toList_ofList]
  · intro h
    exact List.mem_map.mpr ⟨name.toList, h, String.ofList_toList⟩

theorem mem_structured_iff
    {s : NamedStatement} {parameters : List Value} (hvalues : s.values = numbered 1 parameters)
    {name : String} :
    name ∈ s.structured ↔
      ∃ (k : Nat) (v : Value), parameters[k]? = some v ∧ v.isStructured = true ∧
        name = bindName (k + 1) := by
  unfold structured
  rw [hvalues]
  constructor
  · intro h
    obtain ⟨value, hvalue, rfl⟩ := List.mem_map.mp h
    obtain ⟨hmem, hstructured⟩ := List.mem_filter.mp hvalue
    obtain ⟨k, hk, hname⟩ := mem_numbered_iff.mp hmem
    exact ⟨k, value.2, hk, hstructured, by rw [hname, Nat.add_comm]⟩
  · rintro ⟨k, v, hk, hstructured, rfl⟩
    have hmem : (bindName (k + 1), v) ∈ numbered 1 parameters :=
      mem_numbered_iff.mpr ⟨k, hk, by rw [Nat.add_comm]⟩
    exact List.mem_map.mpr ⟨_, List.mem_filter.mpr ⟨hmem, hstructured⟩, rfl⟩

theorem toList_bindName (k : Nat) : (bindName k).toList = 'p' :: Nat.toDigits 10 k := by
  simp [bindName]

/-- A value that is bound as JSON has a bind if and only if it has a mark. -/
theorem structured_subset_binds_iff
    {s : NamedStatement} {sql : String} {parameters : List Value}
    (hvalues : s.values = numbered 1 parameters)
    (hbinds : bindNames false s.source = (Mark.all sql).map Mark.bindName) :
    (∀ name ∈ s.structured, name ∈ s.binds) ↔
      ∀ (k : Nat) (v : Value), parameters[k]? = some v → v.isStructured = true →
        ∃ m ∈ Mark.all sql, m.digits = Nat.toDigits 10 (k + 1) := by
  have hbind : ∀ k : Nat, bindName (k + 1) ∈ s.binds ↔
      ∃ m ∈ Mark.all sql, m.digits = Nat.toDigits 10 (k + 1) := by
    intro k
    rw [mem_binds_iff, hbinds, List.mem_map, toList_bindName]
    refine exists_congr fun m => and_congr_right fun _ => ?_
    exact List.cons_eq_cons.trans (and_iff_right rfl)
  constructor
  · intro hall k v hk hstructured
    exact (hbind k).mp (hall _ ((mem_structured_iff hvalues).mpr ⟨k, v, hk, hstructured, rfl⟩))
  · intro hall name hname
    obtain ⟨k, v, hk, hstructured, rfl⟩ := (mem_structured_iff hvalues).mp hname
    exact (hbind k).mpr (hall k v hk hstructured)

/-- In a statement the marks with the number of a value become the binds, and the text is otherwise
printed as it was, if and only if there are no other marks, all are open, so that none comes right
after a colon or a backslash, and every value that is bound as JSON has a mark. -/
theorem isFaithful_iff (sql : String) (parameters : List Value) :
    (∃ s, ofMarks (.text sql) parameters = .ok s ∧ s.IsFaithful sql parameters) ↔
      (∀ m ∈ Mark.all sql, Mark.isNumeral parameters.length m.digits = true ∧ m.IsOpen) ∧
      ∀ (k : Nat) (v : Value), parameters[k]? = some v → v.isStructured = true →
        ∃ m ∈ Mark.all sql, m.digits = Nat.toDigits 10 (k + 1) := by
  have hsource : namedText sql.toList = handedOn none sql.toList := namedText_eq_handedOn _
  have hopen_iff : (∀ m ∈ Mark.all sql, Mark.isNumeral parameters.length m.digits = true) →
      (bindNames false (namedText sql.toList) = (Mark.all sql).map Mark.bindName ↔
        ∀ m ∈ Mark.all sql, m.IsOpen) := by
    intro hnumerals
    rw [hsource]
    exact bindNames_handedOn_iff hnumerals false (fun _ => rfl)
  constructor
  · rintro ⟨s, hs, hfaithful⟩
    obtain ⟨rfl, hnames⟩ := ofMarks_eq_ok_iff.mp hs
    obtain ⟨-, hbinds, htext⟩ := hfaithful
    have hprinted : unescaped (handedOn none sql.toList) = _ :=
      hsource ▸ String.ofList_injective htext
    have hnumerals : ∀ m ∈ Mark.all sql, Mark.isNumeral parameters.length m.digits = true :=
      renames_of_unescaped_handedOn hprinted none
    rw [List.filter_eq_self.mpr hnumerals] at hbinds
    have hopen := (hopen_iff hnumerals).mp hbinds
    exact ⟨fun m hm => ⟨hnumerals m hm, hopen m hm⟩,
      (structured_subset_binds_iff rfl hbinds).mp hnames⟩
  · rintro ⟨hmarks, hstructured⟩
    have hnumerals := fun m hm => (hmarks m hm).1
    have hbinds := (hopen_iff hnumerals).mpr fun m hm => (hmarks m hm).2
    let s : NamedStatement := ⟨namedText sql.toList, numbered 1 parameters⟩
    have hbound : bindNames false s.source = (Mark.all sql).map Mark.bindName := hbinds
    have hnames := (structured_subset_binds_iff rfl hbound).mpr hstructured
    refine ⟨s, ofMarks_eq_ok_iff.mpr ⟨rfl, hnames⟩, rfl, ?_, ?_⟩
    · rw [List.filter_eq_self.mpr hnumerals]
      exact hbinds
    · have hprinted : unescaped s.source = _ :=
        (congrArg unescaped hsource).trans (unescaped_handedOn hmarks)
      exact congrArg String.ofList hprinted

/-- Colons, quotes and backslashes around marks do no harm, but the colon of a slice takes the bind
away from a mark right after it. -/
theorem isFaithful_iff_slice :
    (∃ s, ofMarks (.text "SELECT '$9:x\\' || $1::text FROM \"t:$1\" WHERE d @> $2")
        [.text "x", .dict []] = .ok s ∧
      bindNames false s.source = ["p1".toList, "p2".toList] ∧
      s.text = "SELECT '$9:x\\' || :p1::text FROM \"t:$1\" WHERE d @> :p2") ∧
    ¬ ∃ s, ofMarks (.text "SELECT a[1:$1] FROM t") [.int 2] = .ok s ∧
      s.IsFaithful "SELECT a[1:$1] FROM t" [.int 2] := by
  constructor
  · have hall : Mark.all "SELECT '$9:x\\' || $1::text FROM \"t:$1\" WHERE d @> $2" =
        [⟨some ' ', ['1'], some ':'⟩, ⟨some ' ', ['2'], none⟩] := rfl
    have hspace : hindersBind ' ' = false ∧ Text.isWord ':' = false := by decide
    have hmarks : ∀ m ∈ Mark.all "SELECT '$9:x\\' || $1::text FROM \"t:$1\" WHERE d @> $2",
        Mark.isNumeral 2 m.digits = true ∧ m.IsOpen := by
      rw [hall]
      refine List.forall_mem_cons.mpr ⟨?_, List.forall_mem_singleton.mpr ?_⟩
      · exact ⟨by decide, by simp [hspace], by simp [hspace]⟩
      · exact ⟨by decide, by simp [hspace], by simp⟩
    have hstructured : ∀ (k : Nat) (v : Value), [Value.text "x", .dict []][k]? = some v →
        v.isStructured = true →
        ∃ m ∈ Mark.all "SELECT '$9:x\\' || $1::text FROM \"t:$1\" WHERE d @> $2",
          m.digits = Nat.toDigits 10 (k + 1) := by
      rw [hall]
      intro k v hk hv
      cases k with
      | zero =>
          obtain rfl := Option.some.inj hk
          exact absurd hv (by decide)
      | succ k =>
          cases k with
          | zero => exact ⟨_, List.mem_cons_of_mem _ List.mem_cons_self, by decide⟩
          | succ k => simp at hk
    obtain ⟨s, hs, -, hbinds, htext⟩ := (isFaithful_iff _ _).mpr ⟨hmarks, hstructured⟩
    refine ⟨s, hs, ?_, ?_⟩
    · rw [hbinds, hall]
      decide
    · rw [htext]
      rfl
  · have hall : Mark.all "SELECT a[1:$1] FROM t" = [⟨some ':', ['1'], some ']'⟩] := rfl
    have hcolon : hindersBind ':' = true := by decide
    rw [isFaithful_iff, hall]
    rintro ⟨hmarks, -⟩
    have hbefore := (hmarks _ List.mem_cons_self).2.before
    simp [hcolon] at hbefore

end SqlBuilder.NamedStatement
