import Mathlib.Data.List.Permutation
import SqlBuilder.Proofs.Builder.DataValues
import SqlBuilder.Proofs.Session.Simulation
import SqlBuilder.Session.Recorder

/-!
# The data values of conversations

Two conversations with builders whose data values differ go the same way where
adapters answer alike: each call is answered or refused alike, and statements
are sent by the same text with data values in the same places.
-/

namespace SqlBuilder

variable (f : Value → Value)

def Answer.mapData : Answer → Answer
  | .compiled c => .compiled (c.mapData f)
  | .snapshot s => .snapshot (s.mapData f)
  | answer => answer

/-- What one call of a conversation comes to: its answer and the builder after it. -/
abbrev Turn := Outcome Answer × Builder

def Turn.mapData (turn : Turn) : Turn :=
  (turn.1.map (Answer.mapData f), turn.2.mapData f)

variable {World World' Handle Handle' : Type} {A : Adapter World Handle}
  {B : Adapter World' Handle'} {h : Handle} {h' : Handle'} {Related : World → World' → Prop}
  {w : World} {v : World'} {b : Builder}

/-- Statements that get the same answers through two handles, with other data
values through the second. -/
def Adapter.AnswersAlike (A : Adapter World Handle) (B : Adapter World' Handle') (h : Handle)
    (h' : Handle') (Related : World → World' → Prop) : Prop :=
  ∀ w v sql parameters, Related w v →
    Agree Related (A.send h sql parameters w) (B.send h' sql (parameters.map f) v)

namespace Builder

theorem execute_mapData
    (hsend : A.AnswersAlike f B h h' Related) (hb : b.payload.IsPayload) (hR : Related w v)
    (quoting : Bool) :
    Agree Related (b.execute A quoting h w) ((b.mapData f).execute B quoting h' v) := by
  unfold execute
  rw [compile_mapData f hb quoting]
  cases b.compile quoting with
  | error failure => exact ⟨rfl, hR⟩
  | ok c =>
      obtain ⟨answer, _, _, hA, hB, hafter⟩ := (hsend w v (.text c.sql) c.parameters hR).split
      simp only [Except.map, Compiled.mapData, hA, hB]
      cases answer <;> exact ⟨rfl, hafter⟩

theorem request_mapData
    (hf : KeepsShape f) (hsend : A.AnswersAlike f B h h' Related) (hb : b.payload.IsPayload)
    (hR : Related w v) (quoting : Bool) (r : Request) :
    Agree Related (Prod.map (Turn.mapData f) id (b.request A quoting h w r))
      ((b.mapData f).request B quoting h' v (r.mapData f)) := by
  obtain ⟨rows, _, _, hA, hB, hafter⟩ := (execute_mapData f hsend hb hR quoting).split
  cases r with
  | change c =>
      simp only [request, Request.mapData, change_mapData f hf]
      simp only [Changed.mapData]
      cases (b.change c).refusal <;> exact ⟨rfl, hR⟩
  | compiled =>
      simp only [request, Request.mapData, compile_mapData f hb quoting]
      cases b.compile quoting <;> exact ⟨rfl, hR⟩
  | snapshot =>
      simp only [request, Request.mapData, snapshot_mapData f hb]
      cases b.snapshot <;> exact ⟨rfl, hR⟩
  | tableName => exact ⟨rfl, hR⟩
  | execute | first | rows =>
      simp only [request, Request.mapData, hA, hB]
      cases rows <;> exact ⟨rfl, hafter⟩

theorem call_mapData
    (hf : KeepsShape f) (hsend : A.AnswersAlike f B h h' Related) (hb : b.payload.IsPayload)
    (hR : Related w v) (quoting : Bool) (c : Call) :
    Agree Related (Prod.map (Turn.mapData f) id (b.call A quoting h w c))
      ((b.mapData f).call B quoting h' v (c.mapData f)) := by
  have hword : (c.mapData f).word = c.word := rfl
  unfold call
  rw [hword, Request.ofWord_mapData]
  cases Request.ofWord c.word c.args c.named with
  | error failure => exact ⟨rfl, hR⟩
  | ok r => exact request_mapData f hf hsend hb hR quoting r

theorem converse_mapData
    (hf : KeepsShape f) (hsend : A.AnswersAlike f B h h' Related) (hb : b.Reachable)
    (hR : Related w v) (quoting : Bool) (calls : List Call) :
    Agree Related (Prod.map (List.map (Turn.mapData f)) id (b.converse A quoting h w calls))
      ((b.mapData f).converse B quoting h' v (calls.map (Call.mapData f))) := by
  induction calls generalizing b w v with
  | nil => exact ⟨rfl, hR⟩
  | cons c calls ih =>
      have hreached := hb.call A quoting h w c
      obtain ⟨_, _, v', hA, hB, hafter⟩ :=
        (call_mapData f hf hsend hb.isPayload hR quoting c).split
      obtain ⟨⟨⟨answer, b'⟩, w'⟩, hcall⟩ : ∃ x, b.call A quoting h w c = x := ⟨_, rfl⟩
      rw [hcall] at hA hreached
      obtain ⟨rfl, rfl⟩ := Prod.mk.inj hA
      have hrest := ih hreached hafter
      simp only [List.map_cons, converse, hcall, hB, Turn.mapData]
      exact ⟨congrArg (_ :: ·) hrest.1, hrest.2⟩

end Builder

/-! ## Beside a recorder -/

namespace Recorder

def Entry.mapData : Entry → Entry
  | statement sql parameters => .statement sql (parameters.map f)
  | entry => entry

theorem answersAlike
    (isScoped : Bool) :
    recorder.AnswersAlike f recorder isScoped isScoped
      fun log log' => log' = log.map (Entry.mapData f) := by
  rintro log _ sql parameters rfl
  refine ⟨rfl, ?_⟩
  simp only [recorder, List.map_append]
  rfl

end Recorder

namespace Builder

/-- Data values never become part of a statement's text.  Whatever calls are made
on a builder, with other data values each is answered or refused alike, what is
answered and what is sent differs in the places of data values only, and so do
the builders that the calls lead to; each of them compiles to the same text with
those values as its parameters, or fails alike. -/
theorem converse_data
    {f : Value → Value} (hf : KeepsShape f) (quoting isScoped : Bool) (log : Recorder.Log)
    (table : Value) (calls : List Call) :
    ({ table } : Builder).converse recorder quoting isScoped (log.map (Recorder.Entry.mapData f))
        (calls.map (Call.mapData f)) =
      Prod.map (List.map (Turn.mapData f)) (List.map (Recorder.Entry.mapData f))
        (({ table } : Builder).converse recorder quoting isScoped log calls) ∧
    ({ table } : Builder).met (calls.map (Call.mapData f)) =
      (({ table } : Builder).met calls).map (mapData f) ∧
    ∀ b ∈ ({ table } : Builder).met calls,
      (b.mapData f).compile quoting = (b.compile quoting).map (Compiled.mapData f) := by
  have hfresh : ({ table } : Builder).Reachable := .fresh table
  have hrun := converse_mapData f hf (Recorder.answersAlike f isScoped) hfresh (w := log) rfl
    quoting calls
  refine ⟨?_, met_mapData f hf { table } calls, ?_⟩
  · exact Prod.ext hrun.1.symm hrun.2
  · intro b hb
    exact compile_mapData f (hfresh.met calls b hb).isPayload quoting

/-- Text that looks like SQL in the places of numbers. -/
def injected : Value → Value
  | .int _ => .text "'; DROP TABLE t; --"
  | v => v

theorem converse_data_injected :
    let calls : List Call :=
      [⟨"update", [.dict [(.text "c", .int 1), (.text "d", .null)]], []⟩,
        ⟨"where", [.dict [(.text "a", .dict [(.text "in", .list [.int 2, .bool true])])]],
          [("b", .int 3)]⟩,
        ⟨"to_sql", [], []⟩]
    KeepsShape injected ∧
      ((({ table := .text "t" } : Builder).converse recorder true false []
        (calls.map (Call.mapData injected))).1.map (·.1)).getLast? =
      some (.ok (.compiled
        { sql := "UPDATE \"t\" SET \"c\" = $1, \"d\" = $2 WHERE \"a\" IN ($3, $4) AND \"b\" = $5"
            ++ " RETURNING *"
          parameters := [.text "'; DROP TABLE t; --", .null, .text "'; DROP TABLE t; --",
            .bool true, .text "'; DROP TABLE t; --"] })) := by
  intro calls
  have hf : KeepsShape injected := by
    constructor
    · intro v
      cases v <;> simp [injected]
    · intro v
      cases v <;> simp [injected]
  refine ⟨hf, ?_⟩
  have hrun := (converse_data hf true false [] (.text "t") calls).1
  rw [List.map_nil] at hrun
  rw [hrun]
  cbv

end Builder

end SqlBuilder
