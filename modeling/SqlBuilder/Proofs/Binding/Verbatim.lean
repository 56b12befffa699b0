import SqlBuilder.Engine.Host
import SqlBuilder.Proofs.Binding.Handwritten

/-!
# Statements without marks

A statement that has parameters is sent with its colons escaped and escapes taken
away again, and one that has none is sent as it stands.  Where no mark is to be
found outside quotes this makes no difference: no bind comes about, and every
backslash that was put in is the one that is taken away.
-/

namespace SqlBuilder

namespace Binding

theorem renamed_false (inside : Option Quote) (cs : List Char) :
    renamed (fun _ => false) inside cs = cs := by
  induction cs generalizing inside with
  | nil => rfl
  | cons c cs ih => simp [renamed, ih]

/-- A text is handed on such that it is printed as it was, if and only if it has no marks. -/
theorem unescaped_handedOn_eq_self_iff (before : Option Char) {inside : Option Quote}
    {cs : List Char} :
    unescaped (handedOn inside cs) = cs ↔ Mark.read inside before cs = [] := by
  have hkept := renamed_false inside cs
  constructor
  · intro hprinted
    have hrenames := renames_of_unescaped_handedOn (hprinted.trans hkept.symm) before
    exact List.eq_nil_iff_forall_not_mem.mpr fun m hm => Bool.false_ne_true (hrenames m hm)
  · intro hmarks
    have hopen : ∀ m ∈ Mark.read inside before cs, false = true ∧ m.IsOpen := by simp [hmarks]
    exact (unescaped_handedOn hopen).trans hkept

theorem bindNames_handedOn_of_unmarked {cs : List Char} (hmarks : Mark.read none none cs = []) :
    bindNames false (handedOn none cs) = [] := by
  have hnumerals : ∀ m ∈ Mark.read none none cs, Mark.isNumeral 0 m.digits = true := by
    simp [hmarks]
  have hbinds := (bindNames_handedOn_iff hnumerals false fun _ => rfl).mpr (by simp [hmarks])
  rw [hbinds, hmarks, List.map_nil]

end Binding

open Binding

/-- A statement whose values are no structures is printed as it was written if and only if it has no
marks outside quotes.  Then it has no binds either, and what is sent for it is this text, without
arguments, whether it has parameters or not. -/
theorem NamedStatement.text_eq_iff
    {parameters : List Value} (hplain : ∀ v ∈ parameters, v.isStructured = false) (sql : String) :
    ∃ s, ofMarks (.text sql) parameters = .ok s ∧
      (s.text = sql ↔ Mark.all sql = []) ∧
      (Mark.all sql = [] →
        bindNames false s.source = [] ∧
        Host.prepared (.text sql) [] = .ok (.text s.text, none) ∧
        (parameters ≠ [] → Host.prepared (.text sql) parameters = .ok (.text s.text, some []))) := by
  let s : NamedStatement := ⟨namedText sql.toList, numbered 1 parameters⟩
  have hsource : s.source = handedOn none sql.toList := namedText_eq_handedOn _
  have hmade : ofMarks (.text sql) parameters = .ok s := by
    refine ofMarks_eq_ok_iff.mpr ⟨rfl, fun name hname => ?_⟩
    obtain ⟨k, v, hk, hstructured, -⟩ := (mem_structured_iff rfl).mp hname
    rw [hplain v (List.mem_of_getElem? hk)] at hstructured
    exact absurd hstructured Bool.false_ne_true
  have htext : s.text = sql ↔ Mark.all sql = [] := by
    unfold NamedStatement.text
    rw [hsource, ← String.toList_inj, String.toList_ofList]
    exact unescaped_handedOn_eq_self_iff none
  refine ⟨s, hmade, htext, fun hmarks => ?_⟩
  have hbinds : bindNames false s.source = [] := by
    rw [hsource]
    exact bindNames_handedOn_of_unmarked hmarks
  refine ⟨hbinds, ?_, fun hparameters => ?_⟩
  · rw [htext.mpr hmarks]
    rfl
  · have harguments : s.arguments = .ok [] := by
      unfold NamedStatement.arguments NamedStatement.binds
      simp [hbinds, pure, Except.pure]
    have hnonempty : parameters.isEmpty = false := by simpa using hparameters
    simp only [Host.prepared, hnonempty, hmade, harguments, bind, Except.bind]
    rfl

/-- Colons, escapes, a lone dollar, marks in quotes and a quote that is not closed. -/
theorem NamedStatement.text_eq_iff_colons :
    let sql := "SELECT a::int, \\:b :c \"$1:\" '$2''' $ $x \\\\: \" :"
    let parameters : List Value := [.list [.int 1], .text "$1"]
    (∀ v ∈ parameters, v.isStructured = false) ∧ Mark.all sql = [] ∧
      Host.prepared (.text sql) parameters = .ok (.text sql, some []) := by
  intro sql parameters
  have hplain : ∀ v ∈ parameters, v.isStructured = false := by decide
  have hmarks : Mark.all sql = [] := by decide +kernel
  obtain ⟨s, -, htext, hsent⟩ := NamedStatement.text_eq_iff hplain sql
  have hprepared := (hsent hmarks).2.2 (List.cons_ne_nil _ _)
  rw [htext.mpr hmarks] at hprepared
  exact ⟨hplain, hmarks, hprepared⟩

end SqlBuilder
