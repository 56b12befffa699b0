import Mathlib.Data.List.Infix
import SqlBuilder.Engine.Owner

/-!
# The driver that a PostgreSQL URL gets

A URL that starts with the plain scheme gets a driver, whatever follows, unless
the text that chooses one stands anywhere in what follows: in a password, in the
name of a database or in an option.  Then the URL is left as it is, like every
URL of another scheme.
-/

namespace SqlBuilder.Url

theorem holds_iff
    {part cs : List Char} : holds part cs = true ↔ part <:+: cs := by
  induction cs with
  | nil => simp [holds]
  | cons c cs ih => simp [holds, ih, List.infix_cons_iff]

theorem plainScheme_eq :
    plainScheme = ['p', 'o', 's', 't', 'g', 'r', 'e', 's', 'q', 'l', ':', '/', '/'] := by
  decide

theorem chosenScheme_eq :
    chosenScheme = ['p', 'o', 's', 't', 'g', 'r', 'e', 's', 'q', 'l', '+'] := by
  decide

/-- The plain scheme ends where a driver would be named, so a choice of driver stands behind it or
nowhere. -/
theorem chosenScheme_infix_iff
    {rest : List Char} : chosenScheme <:+: plainScheme ++ rest ↔ chosenScheme <:+: rest := by
  rw [plainScheme_eq, chosenScheme_eq]
  simp [List.infix_cons_iff, List.cons_prefix_cons]

theorem toList_plain
    (rest : String) : ("postgresql://" ++ rest).toList = plainScheme ++ rest.toList :=
  String.toList_append

theorem isPrefixOf_plain
    (rest : List Char) : plainScheme.isPrefixOf (plainScheme ++ rest) = true :=
  List.isPrefixOf_iff_prefix.mpr (List.prefix_append plainScheme rest)

theorem normalized_plain
    {rest : String} (hrest : ¬ chosenScheme <:+: rest.toList) :
    normalized ("postgresql://" ++ rest) = "postgresql+psycopg://" ++ rest := by
  have hchosen : holds chosenScheme (plainScheme ++ rest.toList) = false := by
    rw [Bool.eq_false_iff, Ne, holds_iff, chosenScheme_infix_iff]
    exact hrest
  simp only [normalized, toList_plain, isPrefixOf_plain, hchosen, List.drop_left,
    String.ofList_toList, Bool.not_false, Bool.and_true, if_true]

theorem normalized_chosen
    {rest : String} (hrest : chosenScheme <:+: rest.toList) :
    normalized ("postgresql://" ++ rest) = "postgresql://" ++ rest := by
  have hchosen : holds chosenScheme (plainScheme ++ rest.toList) = true :=
    holds_iff.mpr (chosenScheme_infix_iff.mpr hrest)
  simp only [normalized, toList_plain, hchosen, Bool.not_true, Bool.and_false,
    Bool.false_eq_true, if_false]

theorem normalized_other
    {url : String} (hurl : ∀ rest, url ≠ "postgresql://" ++ rest) : normalized url = url := by
  have hscheme : plainScheme.isPrefixOf url.toList = false := by
    rw [Bool.eq_false_iff, Ne, List.isPrefixOf_iff_prefix]
    rintro ⟨rest, hrest⟩
    apply hurl (String.ofList rest)
    rw [← String.toList_inj, toList_plain, String.toList_ofList, hrest]
  unfold normalized
  simp [hscheme]

theorem normalized_psycopg
    (rest : String) :
    normalized ("postgresql+psycopg://" ++ rest) = "postgresql+psycopg://" ++ rest := by
  apply normalized_other
  intro rest' hsame
  have hchars := congrArg String.toList hsame
  simp [String.toList_append] at hchars

theorem normalized_normalized
    (url : String) : normalized (normalized url) = normalized url := by
  by_cases hplain : ∃ rest, url = "postgresql://" ++ rest
  · obtain ⟨rest, rfl⟩ := hplain
    by_cases hrest : chosenScheme <:+: rest.toList
    · rw [normalized_chosen hrest, normalized_chosen hrest]
    · rw [normalized_plain hrest, normalized_psycopg]
  · have hother : normalized url = url := normalized_other fun rest hrest => hplain ⟨rest, hrest⟩
    rw [hother, hother]

/-- The URL of an owner names a driver in place of the plain scheme just if what follows the scheme
does not hold the text that chooses a driver.  Otherwise it is the URL that was given, as it is
with every other scheme, and a URL that an owner has is never changed again. -/
theorem url_ofUrl
    (url : String) :
    (∀ rest, url = "postgresql://" ++ rest →
      ((Owner.ofUrl url).url = "postgresql+psycopg://" ++ rest ↔
        ¬ "postgresql+".toList <:+: rest.toList) ∧
      ("postgresql+".toList <:+: rest.toList → (Owner.ofUrl url).url = url)) ∧
    ((∀ rest, url ≠ "postgresql://" ++ rest) → (Owner.ofUrl url).url = url) ∧
    (Owner.ofUrl (Owner.ofUrl url).url).url = (Owner.ofUrl url).url := by
  refine ⟨?_, normalized_other, normalized_normalized url⟩
  rintro rest rfl
  refine ⟨⟨?_, normalized_plain⟩, normalized_chosen⟩
  intro hnamed hchosen
  have hsame := hnamed.symm.trans (normalized_chosen hchosen)
  have hchars := congrArg String.toList hsame
  simp [String.toList_append] at hchars

/-- A password that holds the text keeps the driver from being named. -/
theorem url_ofUrl_password :
    let plain : String := "postgresql://u:postgresql+1@h/db"
    "postgresql+".toList <:+: "u:postgresql+1@h/db".toList ∧
      (Owner.ofUrl plain).url = plain ∧
      (Owner.ofUrl "postgresql://u:p@h/db").url = "postgresql+psycopg://u:p@h/db" := by
  intro plain
  have hchosen : "postgresql+".toList <:+: "u:postgresql+1@h/db".toList :=
    holds_iff.mp (by decide)
  have hunchosen : ¬ "postgresql+".toList <:+: "u:p@h/db".toList := by
    rw [← holds_iff]
    decide
  exact ⟨hchosen, ((url_ofUrl plain).1 _ rfl).2 hchosen,
    ((url_ofUrl "postgresql://u:p@h/db").1 _ rfl).1.mpr hunchosen⟩

end SqlBuilder.Url
