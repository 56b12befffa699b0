import SqlBuilder.Proofs.Binding.Scanning
import SqlBuilder.Proofs.Builder.Reachable
import SqlBuilder.Proofs.Statement.Numbering

/-!
# Compiled statements with named binds

A statement that a builder compiles can always be bound by names.  Its binds
are `p1, p2, …`, one for each parameter, and the text that is sent is the
compiled text with a bind in place of every mark: whatever its names hold is
read as part of a quoted stretch, and is printed as it was.
-/

namespace SqlBuilder

open Text

namespace Binding

theorem names_numbered (n : Nat) (vs : List Value) :
    (numbered n vs).map (·.1) = (List.range' n vs.length).map bindName := by
  induction vs generalizing n with
  | nil => rfl
  | cons v vs ih =>
      rw [numbered, List.map_cons, ih, List.length_cons, List.range'_succ, List.map_cons]

theorem values_numbered (n : Nat) (vs : List Value) :
    (numbered n vs).map (·.2) = vs := by
  induction vs generalizing n with
  | nil => rfl
  | cons v vs ih => rw [numbered, List.map_cons, ih]

theorem eraseDups_eq_self {α : Type} [BEq α] [LawfulBEq α] {as : List α} (has : as.Nodup) :
    as.eraseDups = as := by
  induction as with
  | nil => rfl
  | cons a as ih =>
      obtain ⟨hnotMem, htail⟩ := List.nodup_cons.mp has
      have hkept : as.filter (fun b => !b == a) = as := by
        rw [List.filter_eq_self]
        intro b hb
        have hne : b ≠ a := by
          rintro rfl
          exact hnotMem hb
        simpa using hne
      rw [List.eraseDups_cons, hkept, ih htail]

theorem bindName_injective {m n : Nat} (h : bindName m = bindName n) : m = n := by
  have hchars := congrArg String.toList h
  simp only [bindName, String.toList_append, Nat.toString_eq_repr, Nat.toList_repr] at hchars
  have hdigits := (List.append_cancel_left_eq _ _ _).mp hchars
  rw [← Nat.ofDigitChars_ten_toDigits (n := m), hdigits, Nat.ofDigitChars_ten_toDigits]

theorem nodup_bindNames (n k : Nat) : ((List.range' n k).map bindName).Nodup := by
  have hnumbers : (List.range' n k).Nodup := List.nodup_range'
  unfold List.Nodup
  rw [List.pairwise_map]
  apply hnumbers.imp
  intro i j hne heq
  exact hne (bindName_injective heq)

/-- Names in the order of their numbers are not put in another order. -/
theorem mergeSort_bindNames (n k : Nat) :
    ((List.range' n k).map bindName).mergeSort nameLe = (List.range' n k).map bindName := by
  apply List.mergeSort_of_pairwise
  rw [List.pairwise_map]
  apply List.Pairwise.imp _ List.pairwise_le_range'
  intro m n h
  exact nameLe_bindName h

end Binding

namespace NamedStatement

/-- Text of lexical tokens is bound by names when it has one mark for each
parameter. -/
theorem ofMarks_tokens
    {sql : String} {parameters : List Value} {ts : List Token} (hts : Token.Lexical ts)
    (hsql : sql.toList = ts.flatMap Token.chars)
    (hmarks : Token.marks ts = List.range' 1 parameters.length) :
    ∃ n : NamedStatement, ofMarks (.text sql) parameters = .ok n ∧
      n.binds = (List.range' 1 parameters.length).map Binding.bindName ∧
      n.values = Binding.numbered 1 parameters ∧
      n.text = String.ofList (renamedMarks false sql.toList) := by
  let n : NamedStatement :=
    { source := Binding.namedText sql.toList, values := Binding.numbered 1 parameters }
  have hsource : n.source = (ts.map Token.escaped).flatMap Token.named := by
    change Binding.namedText sql.toList = _
    rw [hsql, Token.namedText_chars hts]
  have hbinds : n.binds = (List.range' 1 parameters.length).map Binding.bindName := by
    have hfound := Token.bindNames_named hts false (fun _ _ => rfl)
    have hnames : ((List.range' 1 parameters.length).map fun k =>
        'p' :: Nat.toDigits 10 k).map String.ofList =
          (List.range' 1 parameters.length).map Binding.bindName := by
      rw [List.map_map]
      apply List.map_congr_left
      intro k _
      apply String.toList_inj.mp
      simp [Binding.bindName]
    unfold binds
    rw [hsource, hfound, hmarks, hnames, Binding.eraseDups_eq_self (Binding.nodup_bindNames 1 _),
      Binding.mergeSort_bindNames]
  have hstructured : n.structured.all (fun name => name ∈ n.binds) = true := by
    rw [List.all_eq_true]
    intro name hname
    obtain ⟨value, hvalue, rfl⟩ := List.mem_map.mp hname
    have hmem : value.1 ∈ n.values.map (·.1) :=
      List.mem_map_of_mem (List.mem_filter.mp hvalue).1
    rw [Binding.names_numbered, ← hbinds] at hmem
    simpa using hmem
  refine ⟨n, ?_, hbinds, rfl, ?_⟩
  · change (if n.structured.all (fun name => name ∈ n.binds) = true then
      (pure n : Outcome NamedStatement) else .error .unusedBind) = .ok n
    rw [if_pos hstructured]
    rfl
  · unfold text
    rw [hsource, Token.unescaped_named hts, hsql, renamedMarks_chars hts]

end NamedStatement

namespace Builder

/-- A statement that a builder compiles is bound by the names `p1, p2, …`, each
with the parameter of its number, and printed with a bind for every mark. -/
theorem ofMarks_compile
    {b : Builder} (hb : b.Reachable) {s : Statement} (hs : b.snapshot = .ok s)
    (hnames : s.HasRegularNames) {c : Compiled} (hc : b.compile true = .ok c) :
    ∃ n : NamedStatement, NamedStatement.ofMarks (.text c.sql) c.parameters = .ok n ∧
      n.binds = (List.range' 1 c.parameters.length).map Binding.bindName ∧
      n.values.map (·.1) = n.binds ∧ n.values.map (·.2) = c.parameters ∧
      marks c.sql = (List.range' 1 c.parameters.length).map Draft.mark ∧
      n.text = String.ofList (renamedMarks false c.sql.toList) := by
  have hwritable := (hb.snapshot hs).isWritable
  have hcompile := compile_snapshot hs hc
  obtain ⟨ts, hts, hsql, hmarks⟩ := Statement.tokens_of_compile hnames hwritable hcompile
  obtain ⟨n, hn, hbinds, hvalues, htext⟩ := NamedStatement.ofMarks_tokens hts hsql hmarks
  refine ⟨n, hn, hbinds, ?_, ?_, ?_, htext⟩
  · rw [hvalues, Binding.names_numbered, hbinds]
  · rw [hvalues, Binding.values_numbered]
  · rw [Statement.marks_of_tokens hts hsql, hmarks]

theorem ofMarks_compile_colons :
    let named : Change := .filter .or (.dict [(.text "k$2", .int 5)]) []
    let b := ((({ table := .text "t:$1" } : Builder).change
      (.select [.text "x\"y\\:z"])).builder.change named).builder
    ∃ c n, b.compile true = .ok c ∧
      NamedStatement.ofMarks (.text c.sql) c.parameters = .ok n ∧ n.binds = ["p1"] ∧
      n.text = "SELECT \"x\"\"y\\:z\" FROM \"t:$1\" WHERE \"k$2\" = :p1" := by
  intro named b
  have hb : b.Reachable := ((Reachable.fresh _).changed _).changed _
  obtain ⟨s, hs, hnames⟩ : ∃ s, b.snapshot = .ok s ∧ s.HasRegularNames :=
    ⟨_, rfl, by decide⟩
  have hc : b.compile true = .ok
      { sql := "SELECT \"x\"\"y\\:z\" FROM \"t:$1\" WHERE \"k$2\" = $1",
        parameters := [.int 5] } := by
    unfold b named
    rfl
  obtain ⟨n, hn, hbinds, _, _, _, htext⟩ := ofMarks_compile hb hs hnames hc
  exact ⟨_, n, hc, hn, hbinds, htext⟩

end Builder

end SqlBuilder
