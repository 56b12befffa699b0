import Mathlib.Data.List.Basic
import SqlBuilder.Text.Quoted

/-!
# Text with quotes and brackets

A reader of such text knows how many brackets are open and which quote it is
inside of; a doubled quote closes and opens again, so it leaves the reader where
it was.  Text that ends where it began is level, and the separators inside its
quotes and brackets do not divide it.
-/

namespace SqlBuilder.Text

def isQuote (c : Char) : Bool := c == '"' || c == '\''

def isOpening (c : Char) : Bool := c == '(' || c == '['

def isClosing (c : Char) : Bool := c == ')' || c == ']'

def isPlain (c : Char) : Bool := !isQuote c && !isOpening c && !isClosing c

/-- Where a reader is: under how many brackets, and inside which quote if any. -/
structure Standing where
  depth : Nat
  quote : Option Char
  deriving DecidableEq

namespace Standing

/-- Outside all quotes and brackets. -/
def outside : Standing := ⟨0, none⟩

def step (s : Standing) (c : Char) : Standing :=
  match s.quote with
  | some q => if c = q then ⟨s.depth, none⟩ else s
  | none =>
    if isQuote c then ⟨s.depth, some c⟩
    else if isOpening c then ⟨s.depth + 1, none⟩
    else if isClosing c then ⟨s.depth - 1, none⟩
    else s

end Standing

/-- More text at the front of the first piece. -/
def glued (cs : List Char) : List (List Char) → List (List Char)
  | [] => [cs]
  | piece :: pieces => (cs ++ piece) :: pieces

/-- The pieces of a text between the separators outside quotes and brackets. -/
def pieces (separator : Char) : Standing → List Char → List (List Char)
  | _, [] => [[]]
  | s, c :: cs =>
    if c = separator ∧ s = .outside then [] :: pieces separator s cs
    else glued [c] (pieces separator (s.step c) cs)

theorem glued_glued
    (cs ds : List Char) (ps : List (List Char)) :
    glued cs (glued ds ps) = glued (cs ++ ds) ps := by
  cases ps <;> simp [glued]

theorem glued_nil
    {ps : List (List Char)} (hps : ps ≠ []) : glued [] ps = ps := by
  cases ps with
  | nil => exact absurd rfl hps
  | cons p ps => rfl

theorem pieces_ne_nil
    (separator : Char) (s : Standing) (cs : List Char) : pieces separator s cs ≠ [] := by
  cases cs with
  | nil => simp [pieces]
  | cons c cs =>
      unfold pieces
      split
      next => simp
      next => cases pieces separator (s.step c) cs <;> simp [glued]

/-! ## Level text -/

/-- Text that leaves a reader where it was, with none of the characters
`barred` outside its quotes and brackets. -/
inductive Level : (barred : List Char) → List Char → Prop
  | nil {barred : List Char} : Level barred []
  | plain {barred cs : List Char} {c : Char} (hc : isPlain c = true) (hbarred : c ∉ barred)
      (hcs : Level barred cs) : Level barred (c :: cs)
  | quoted {barred s cs : List Char} {q : Char} (hq : isQuote q = true) (hs : q ∉ s)
      (hcs : Level barred cs) : Level barred (q :: (s ++ q :: cs))
  | nested {barred inner cs : List Char} {o c : Char} (ho : isOpening o = true)
      (hinner : Level [] inner) (hc : isClosing c = true) (hcs : Level barred cs) :
      Level barred (o :: (inner ++ c :: cs))

namespace Level

variable {barred cs ds : List Char}

theorem append
    (hcs : Level barred cs) (hds : Level barred ds) : Level barred (cs ++ ds) := by
  induction hcs with
  | nil => exact hds
  | plain hc hbarred _ ih => exact plain hc hbarred (ih hds)
  | quoted hq hs _ ih =>
      rw [List.cons_append, List.append_assoc, List.cons_append]
      exact quoted hq hs (ih hds)
  | nested ho hinner hc _ _ ih =>
      rw [List.cons_append, List.append_assoc, List.cons_append]
      exact nested ho hinner hc (ih hds)

theorem mono
    {fewer : List Char} (hcs : Level barred cs) (hfewer : fewer ⊆ barred) : Level fewer cs := by
  induction hcs with
  | nil => exact nil
  | plain hc hbarred _ ih => exact plain hc (fun h => hbarred (hfewer h)) (ih hfewer)
  | quoted hq hs _ ih => exact quoted hq hs (ih hfewer)
  | nested ho hinner hc _ _ ih => exact nested ho hinner hc (ih hfewer)

theorem of_plain
    (hcs : ∀ c ∈ cs, isPlain c = true ∧ c ∉ barred) : Level barred cs := by
  induction cs with
  | nil => exact nil
  | cons c cs ih =>
      obtain ⟨hc, hbarred⟩ := hcs c (List.mem_cons_self ..)
      exact plain hc hbarred (ih fun d hd => hcs d (List.mem_cons_of_mem c hd))

theorem intercalate
    {ps : List (List Char)} (hps : ∀ p ∈ ps, Level barred p) (hcs : Level barred cs) :
    Level barred (cs.intercalate ps) := by
  induction ps with
  | nil => exact nil
  | cons p ps ih =>
      have hp := hps p (List.mem_cons_self ..)
      have hrest := ih fun q hq => hps q (List.mem_cons_of_mem p hq)
      cases ps with
      | nil => simpa using hp
      | cons q ps =>
          rw [List.intercalate_cons_cons]
          exact (hp.append hcs).append hrest

/-- A quoted text is level whatever it holds: where it holds its quote, one
stretch ends and the next begins. -/
theorem doubled
    {q : Char} (hq : isQuote q = true) (hcs : Level barred cs) (s : List Char) :
    Level barred (q :: (doubled q s ++ q :: cs)) := by
  suffices hstretch : ∀ before : List Char, q ∉ before →
      Level barred (q :: (before ++ (Text.doubled q s ++ q :: cs))) from
    hstretch [] List.not_mem_nil
  induction s with
  | nil => exact fun before hbefore => quoted hq hbefore hcs
  | cons c s ih =>
      intro before hbefore
      by_cases hc : c = q
      case pos =>
        subst hc
        rw [doubled_cons_self, List.cons_append, List.cons_append]
        exact quoted hq hbefore (ih [] List.not_mem_nil)
      case neg =>
        have hlonger := ih (before ++ [c]) (by simp [hbefore, Ne.symm hc])
        rw [List.append_assoc, List.singleton_append] at hlonger
        rwa [doubled_cons_of_ne hc, List.cons_append]

theorem enclosed
    (hcs : Level [] cs) {o c : Char} (ho : isOpening o = true) (hc : isClosing c = true) :
    Level barred (o :: (cs ++ [c])) :=
  nested ho hcs hc nil

end Level

/-! ## Dividing level text -/

section

variable {separator : Char} {barred : List Char}

theorem pieces_quoted
    {q : Char} {s : List Char} (hs : q ∉ s) (depth : Nat) (rest : List Char) :
    pieces separator ⟨depth, some q⟩ (s ++ rest) =
      glued s (pieces separator ⟨depth, some q⟩ rest) := by
  induction s with
  | nil => exact (glued_nil (pieces_ne_nil _ _ _)).symm
  | cons c s ih =>
      obtain ⟨hc, hs⟩ := not_or.mp (fun h => hs (List.mem_cons.mpr h))
      have hstep : Standing.step ⟨depth, some q⟩ c = ⟨depth, some q⟩ := by
        simp [Standing.step, Ne.symm hc]
      rw [List.cons_append, pieces, if_neg (by simp [Standing.outside]), hstep, ih hs, glued_glued]
      rfl

/-- Level text is not divided, unless at its own level by a separator that is
not barred. -/
theorem pieces_append
    (hseparator : isPlain separator = true) {cs : List Char} (hcs : Level barred cs)
    {depth : Nat} (hdepth : depth = 0 → separator ∈ barred) (rest : List Char) :
    pieces separator ⟨depth, none⟩ (cs ++ rest) =
      glued cs (pieces separator ⟨depth, none⟩ rest) := by
  induction hcs generalizing depth rest with
  | nil => exact (glued_nil (pieces_ne_nil _ _ _)).symm
  | @plain barred cs c hc hbarred _ ih =>
      have hdivides : ¬ (c = separator ∧ (⟨depth, none⟩ : Standing) = .outside) := by
        rintro ⟨rfl, houtside⟩
        exact hbarred (hdepth (congrArg Standing.depth houtside))
      have hstep : Standing.step ⟨depth, none⟩ c = ⟨depth, none⟩ := by
        simp only [isPlain, Bool.and_eq_true, Bool.not_eq_true'] at hc
        simp [Standing.step, hc.1.1, hc.1.2, hc.2]
      rw [List.cons_append, pieces, if_neg hdivides, hstep, ih hdepth, glued_glued]
      rfl
  | @quoted barred s cs q hq hs _ ih =>
      have hne : q ≠ separator := by
        rintro rfl
        simp [isPlain, hq] at hseparator
      have hstep : Standing.step ⟨depth, none⟩ q = ⟨depth, some q⟩ := by simp [Standing.step, hq]
      have hback : Standing.step ⟨depth, some q⟩ q = ⟨depth, none⟩ := by simp [Standing.step]
      rw [List.cons_append, pieces, if_neg (by simp [hne]), hstep, List.append_assoc,
        pieces_quoted hs, List.cons_append, pieces, if_neg (by simp [hne]), hback, ih hdepth,
        glued_glued, glued_glued, glued_glued]
      simp
  | @nested barred inner cs o c ho _ hc _ hinner ih =>
      have hopening : o ≠ separator := by
        rintro rfl
        simp [isPlain, ho] at hseparator
      have hclosing : c ≠ separator := by
        rintro rfl
        simp [isPlain, hc] at hseparator
      have hdown : Standing.step ⟨depth, none⟩ o = ⟨depth + 1, none⟩ := by
        have hquote : isQuote o = false := by
          simp only [isOpening, Bool.or_eq_true, beq_iff_eq] at ho
          rcases ho with rfl | rfl <;> rfl
        simp [Standing.step, hquote, ho]
      have hup : Standing.step ⟨depth + 1, none⟩ c = ⟨depth, none⟩ := by
        simp only [isClosing, Bool.or_eq_true, beq_iff_eq] at hc
        rcases hc with rfl | rfl <;> rfl
      rw [List.cons_append, pieces, if_neg (by simp [hopening]), hdown, List.append_assoc,
        hinner (fun h => absurd h (Nat.succ_ne_zero depth)), List.cons_append, pieces,
        if_neg (by simp [hclosing]), hup, ih hdepth, glued_glued, glued_glued, glued_glued]
      simp

theorem pieces_intercalate
    (separator : Char) (hseparator : isPlain separator = true) (hbarred : separator ∈ barred)
    {ps : List (List Char)} (hne : ps ≠ []) (hps : ∀ p ∈ ps, Level barred p) :
    pieces separator .outside ([separator].intercalate ps) = ps := by
  induction ps with
  | nil => exact absurd rfl hne
  | cons p ps ih =>
      have hp : ∀ rest, pieces separator .outside (p ++ rest) =
          glued p (pieces separator .outside rest) :=
        pieces_append hseparator (hps p (List.mem_cons_self ..)) fun _ => hbarred
      cases ps with
      | nil => simpa [glued, pieces] using hp []
      | cons q ps =>
          have hrest := ih (by simp) fun r hr => hps r (List.mem_cons_of_mem p hr)
          have hdivided := hp (separator :: [separator].intercalate (q :: ps))
          rw [List.intercalate_cons_cons, List.append_assoc, List.singleton_append, hdivided,
            pieces, if_pos ⟨rfl, rfl⟩, hrest]
          simp [glued]

end

/-! ## Lists -/

/-- The items of a text that lists them with a comma and a blank between them. -/
def items (cs : List Char) : List (List Char) :=
  if cs.isEmpty then []
  else (pieces ',' .outside cs).map fun item => item.dropWhile (· == ' ')

theorem intercalate_comma_blank
    (p : List Char) (ps : List (List Char)) :
    [',', ' '].intercalate (p :: ps) = [','].intercalate (p :: ps.map (' ' :: ·)) := by
  induction ps generalizing p with
  | nil => simp
  | cons q ps ih =>
      rw [List.intercalate_cons_cons, ih, List.map_cons, List.intercalate_cons_cons]
      cases ps with
      | nil => simp
      | cons r ps =>
          rw [List.map_cons, List.intercalate_cons_cons, List.intercalate_cons_cons]
          simp

theorem items_intercalate
    {ps : List (List Char)} (hps : ∀ p ∈ ps, Level [','] p)
    (hhead : ∀ p ∈ ps, ∃ c cs, p = c :: cs ∧ c ≠ ' ') :
    items ([',', ' '].intercalate ps) = ps := by
  cases ps with
  | nil => rfl
  | cons p ps =>
      have hblank : Level [','] [' '] := .plain rfl (by decide) .nil
      have hlevel : ∀ q ∈ p :: ps.map (' ' :: ·), Level [','] q := by
        intro q hq
        rcases List.mem_cons.mp hq with rfl | hq
        · exact hps q (List.mem_cons_self ..)
        · obtain ⟨r, hr, rfl⟩ := List.mem_map.mp hq
          exact hblank.append (hps r (List.mem_cons_of_mem p hr))
      have hdivided := pieces_intercalate ',' rfl (by simp)
        (List.cons_ne_nil p (ps.map (' ' :: ·))) hlevel
      have hdrop : ∀ q ∈ p :: ps, q.dropWhile (· == ' ') = q := by
        intro q hq
        obtain ⟨c, cs, rfl, hc⟩ := hhead q hq
        simp [hc]
      have hne : ([',', ' '].intercalate (p :: ps)).isEmpty = false := by
        obtain ⟨c, cs, rfl, _⟩ := hhead p (List.mem_cons_self ..)
        cases ps <;> simp [List.intercalate_cons_cons]
      unfold items
      rw [if_neg (by simp [hne]), intercalate_comma_blank, hdivided, List.map_cons, List.map_map,
        hdrop p (List.mem_cons_self ..)]
      congr 1
      have hrest : ∀ q ∈ ps, (' ' :: q).dropWhile (· == ' ') = q := by
        intro q hq
        rw [List.dropWhile_cons_of_pos (by simp), hdrop q (List.mem_cons_of_mem p hq)]
      exact (List.map_congr_left hrest).trans (List.map_id' ps)

/-! ## What stands between quotes and brackets -/

/-- What stands between a first and a last character. -/
def between? (first last : Char) : List Char → Option (List Char)
  | [] => none
  | c :: cs => if c = first ∧ cs.getLast? = some last then some cs.dropLast else none

theorem between?_enclosed
    (first last : Char) (cs : List Char) :
    between? first last (first :: (cs ++ [last])) = some cs := by
  simp [between?]

/-- Text with doubled quotes as it was before they were doubled. -/
def undoubled (q : Char) : List Char → List Char
  | [] => []
  | [c] => [c]
  | c :: d :: cs => if c = q ∧ d = q then q :: undoubled q cs else c :: undoubled q (d :: cs)

theorem undoubled_doubled
    (q : Char) (s : List Char) : undoubled q (doubled q s) = s := by
  induction s with
  | nil => rfl
  | cons c s ih =>
      by_cases hc : c = q
      case pos =>
        subst hc
        rw [doubled_cons_self, undoubled, if_pos ⟨rfl, rfl⟩, ih]
      case neg =>
        rw [doubled_cons_of_ne hc]
        cases hs : doubled q s with
        | nil =>
            rw [hs] at ih
            rw [← ih]
            rfl
        | cons d ds => rw [undoubled, if_neg (by simp [hc]), ← hs, ih]

/-- The text that stands between two quotes, without its doubling. -/
def unquoted? (q : Char) (cs : List Char) : Option String :=
  (between? q q cs).map fun inner => String.ofList (undoubled q inner)

theorem unquoted?_quoted
    (q : Char) (s : String) : unquoted? q (quoted q s).toList = some s := by
  simp [unquoted?, quoted, between?_enclosed, undoubled_doubled]

end SqlBuilder.Text
