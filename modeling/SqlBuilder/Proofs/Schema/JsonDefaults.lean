import SqlBuilder.Proofs.Schema.DefaultFailures
import SqlBuilder.Proofs.Schema.LiteralGrammar
import SqlBuilder.Proofs.Value.JsonReading

/-!
# Documents as defaults

A document is escaped twice before it stands in a statement: as JSON, where its
texts leave nothing but printable characters, and as a text between single quotes.
Both are undone in turn, and what is read is the document that was given.
-/

namespace SqlBuilder.Literal

open Text

theorem render_eq_json
    {t : ColumnType} {v : Value}
    (hjson : (t = .json ∧ v ≠ .null) ∨ ((∀ item, t ≠ .array item) ∧ IsStructure v))
    (columnName : Value) : render t columnName v = json v := by
  rcases hjson with ⟨rfl, hv⟩ | ⟨harray, hv⟩
  · cases v <;> first | rfl | exact absurd rfl hv
  · cases v with
    | dict | list =>
        cases t with
        | array item => exact absurd rfl (harray item)
        | bare | primitive | json | uuid | enumerated => rfl
    | _ => exact absurd hv id

/-- A document is one quoted text, whether its column holds documents or holds no arrays and the
document is a list or a mapping.  Without its quotes it is read as the same document. -/
theorem read_render
    {t : ColumnType} {v : Value} (hv : Json.IsDocument v)
    (hjson : (t = .json ∧ v ≠ .null) ∨ ((∀ item, t ≠ .array item) ∧ IsStructure v))
    (columnName : Value) :
    ∃ s inner, render t columnName v = .ok s ∧ s = "'" ++ inner ++ "'" ∧
      HasDoubled '\'' inner.toList ∧ Json.read (undoubled '\'' inner.toList) = some v := by
  obtain ⟨text, htext, hreads⟩ := Json.exists_jsonText hv
  refine ⟨quoted text, String.ofList (doubled '\'' text.toList), ?_, quoted_eq text, ?_, ?_⟩
  · rw [render_eq_json hjson]
    exact json_eq_ok.mpr ⟨text, htext, rfl⟩
  · rw [String.toList_ofList]
    exact .doubled text.toList
  · rw [String.toList_ofList, undoubled_doubled]
    exact hreads.read_eq

theorem read_render_nested :
    let items : List Value := [.text "😀\"\\", .int (-30), .null, .dict []]
    let v : Value := .dict (Fields.toEntries [("it's", .list items)])
    let text := "\x7b\"it''s\": [\"\\ud83d\\ude00\\\"\\\\\", -30, null, \x7b\x7d]\x7d"
    render (.primitive .string) .null v = .ok ("'" ++ text ++ "'") ∧
      Json.read (undoubled '\'' text.toList) = some v := by
  intro items v text
  have hempty : Json.IsDocument (.dict []) := .dict [] .nil (by simp)
  have hitems : ∀ item ∈ items, Json.IsDocument item := by
    simp [items, hempty, Json.IsDocument.text, Json.IsDocument.int, Json.IsDocument.null]
  have hv : Json.IsDocument v := by
    refine .dict [("it's", .list items)] (by simp) ?_
    intro field hfield
    obtain rfl := List.mem_singleton.mp hfield
    exact .list hitems
  have hstructure : (∀ item, ColumnType.primitive .string ≠ .array item) ∧ IsStructure v :=
    ⟨by simp, trivial⟩
  have htext : render (.primitive .string) .null v = .ok ("'" ++ text ++ "'") := by
    have hjson : v.jsonText? = some
        "\x7b\"it's\": [\"\\ud83d\\ude00\\\"\\\\\", -30, null, \x7b\x7d]\x7d" := by
      decide +kernel
    rw [render_eq_json (.inr hstructure)]
    exact json_eq_ok.mpr ⟨_, hjson, by decide +kernel⟩
  obtain ⟨s, inner, hs, hinner, _, hread⟩ := read_render hv (.inr hstructure) .null
  have hsame : "'" ++ text ++ "'" = "'" ++ inner ++ "'" := by
    rw [← hinner]
    exact Except.ok.inj (htext.symm.trans hs)
  obtain rfl : text = inner := by
    apply String.toList_inj.mp
    simpa using congrArg String.toList hsame
  exact ⟨htext, hread⟩

end SqlBuilder.Literal
