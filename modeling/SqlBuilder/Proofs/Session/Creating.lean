import Mathlib.Data.List.Permutation
import SqlBuilder.Proofs.Engine.Preparing
import SqlBuilder.Proofs.Engine.Transaction
import SqlBuilder.Proofs.Engine.Willing
import SqlBuilder.Proofs.Outcome
import SqlBuilder.Session.Program
import SqlBuilder.Session.Recorder

/-!
# Creating the tables of a registry

Tables are written and sent one by one.  So where one of them cannot be written,
the refusal comes after the statements of those before it were sent, and nothing
takes them back.
-/

namespace SqlBuilder

variable {World Handle : Type}

namespace Adapter

/-- Texts without parameters are never refused in a world that is willing, and leave it so. -/
def TakesTexts (A : Adapter World Handle) (h : Handle) (Willing : World → Prop) : Prop :=
  ∀ (w : World) (sql : String), Willing w →
    ∃ result w', A.send h (.text sql) [] w = (.ok result, w') ∧ Willing w'

/-- The world after texts were sent in order, each without parameters. -/
def afterTexts (A : Adapter World Handle) (h : Handle) (w : World) (sqls : List String) : World :=
  sqls.foldl (fun w sql => (A.send h (.text sql) [] w).2) w

end Adapter

theorem Recorder.takesTexts (isScoped : Bool) :
    recorder.TakesTexts isScoped fun _ => True :=
  fun _ _ _ => ⟨_, _, rfl, trivial⟩

/-- Over drivers that never fail, an engine takes texts as long as it may have another
connection. -/
theorem EngineWorld.takesTexts_root :
    engineAdapter.TakesTexts .root fun w =>
      w.IsWilling ∧ ∃ leases, w.Reachable leases ∧ leases.length < Host.mostConnections := by
  rintro w sql ⟨hwilling, leases, hw, hroom⟩
  obtain ⟨result, w', hsend, htells⟩ :=
    send_root_willing hwilling hw.holds hroom (Host.prepared_verbatim (.text sql))
  have hw' := hw.sent (.text sql) [] (List.mem_cons_self ..)
  simp only [engineAdapter, hsend] at hw'
  exact ⟨result, w', hsend, htells.willing, leases, hw', hroom⟩

theorem EngineWorld.takesTexts_lent (l : Lease) :
    engineAdapter.TakesTexts (.lent l) IsWilling := by
  intro w sql hwilling
  obtain ⟨result, w', hsend, htells⟩ :=
    send_lent_willing hwilling l (Host.prepared_verbatim (.text sql))
  exact ⟨result, w', hsend, htells.willing⟩

/-! ## Tables written one by one -/

namespace Registry

theorem createTables_cons
    (quoting : Bool) (table : Value × Columns) (tables : List (Value × Columns)) :
    (⟨table :: tables⟩ : Registry).createTables quoting = do
      let sql ← SqlBuilder.createTable quoting table.1 table.2
      let sqls ← (⟨tables⟩ : Registry).createTables quoting
      return sql :: sqls :=
  List.mapM_cons

/-- How the tables of a registry are written one by one, and the texts that were written: those of
all tables, or those of the tables before the first that is refused. -/
inductive Written (quoting : Bool) : Registry → Outcome (List String) → List String → Prop
  | all {r : Registry} {sqls : List String} (written : r.createTables quoting = .ok sqls) :
      Written quoting r (.ok sqls) sqls
  | upTo (before : List (Value × Columns)) {after : List (Value × Columns)}
      {table : Value × Columns} {sqls : List String} {failure : Failure}
      (written : (⟨before⟩ : Registry).createTables quoting = .ok sqls)
      (refused : SqlBuilder.createTable quoting table.1 table.2 = .error failure) :
      Written quoting ⟨before ++ table :: after⟩ (.error failure) sqls

theorem Written.cons
    {quoting : Bool} {table : Value × Columns} {tables : List (Value × Columns)} {sql : String}
    {sqls : List String} {outcome : Outcome (List String)}
    (hsql : SqlBuilder.createTable quoting table.1 table.2 = .ok sql)
    (hwritten : Written quoting ⟨tables⟩ outcome sqls) :
    Written quoting ⟨table :: tables⟩ (outcome.map (sql :: ·)) (sql :: sqls) := by
  have hcons : ∀ {others : List (Value × Columns)} {sqls : List String},
      (⟨others⟩ : Registry).createTables quoting = .ok sqls →
        (⟨table :: others⟩ : Registry).createTables quoting = .ok (sql :: sqls) := by
    intro others sqls hothers
    rw [createTables_cons, hsql, hothers]
    rfl
  cases hwritten with
  | all hall => exact .all (hcons hall)
  | upTo before hbefore hrefused => exact .upTo (table :: before) (hcons hbefore) hrefused

/-- All texts are written or none, if and only if no table is refused or the first one is. -/
theorem Written.all_or_none_iff
    {quoting : Bool} {r : Registry} {outcome : Outcome (List String)} {sqls : List String}
    (hwritten : Written quoting r outcome sqls) :
    (outcome = .ok sqls ∨ sqls = []) ↔
      ((∀ table ∈ r.tables, ∃ sql, SqlBuilder.createTable quoting table.1 table.2 = .ok sql) ∨
        ∃ first ∈ r.tables.head?, ∃ failure,
          SqlBuilder.createTable quoting first.1 first.2 = .error failure) := by
  cases hwritten with
  | all hall =>
      refine iff_of_true (.inl rfl) (.inl fun table htable => ?_)
      obtain ⟨sql, -, hsql⟩ := (Outcome.mem_of_mapM_eq_ok hall).1 table htable
      exact ⟨sql, hsql⟩
  | @upTo before after refusedTable _ failure hbefore hrefused =>
      cases before with
      | nil =>
          obtain rfl := Outcome.pure_eq_ok.mp hbefore
          exact iff_of_true (.inr rfl) (.inr ⟨refusedTable, rfl, failure, hrefused⟩)
      | cons first others =>
          rw [createTables_cons] at hbefore
          obtain ⟨sql, hsql, hbefore⟩ := Outcome.bind_eq_ok.mp hbefore
          obtain ⟨later, -, hbefore⟩ := Outcome.bind_eq_ok.mp hbefore
          obtain rfl := Outcome.pure_eq_ok.mp hbefore
          refine iff_of_false (by simp) ?_
          rintro (hall | ⟨other, hother, failure, hfirst⟩)
          · obtain ⟨sql, hok⟩ := hall refusedTable (by simp)
            rw [hrefused] at hok
            exact absurd hok (by simp)
          · obtain rfl : first = other := Option.some.inj hother
            rw [hsql] at hfirst
            exact absurd hfirst (by simp)

end Registry

/-! ## Tables created one by one -/

namespace Database

variable {A : Adapter World Handle} {h : Handle} {Willing : World → Prop} {w : World}

theorem create_written
    (htakes : A.TakesTexts h Willing) (hw : Willing w) (d : Database)
    (tables : List (Value × Columns)) :
    ∃ sqls,
      Registry.Written d.quoting ⟨tables⟩ ((⟨tables⟩ : Registry).createTables d.quoting) sqls ∧
      d.create A h w tables =
        (((⟨tables⟩ : Registry).createTables d.quoting).map fun _ => (), A.afterTexts h w sqls) := by
  induction tables generalizing w with
  | nil => exact ⟨[], .all rfl, rfl⟩
  | cons table tables ih =>
      rw [Registry.createTables_cons]
      unfold create
      cases hsql : createTable d.quoting table.1 table.2 with
      | error failure => exact ⟨[], .upTo [] rfl hsql, rfl⟩
      | ok sql =>
          obtain ⟨result, w', hsend, hw'⟩ := htakes w sql hw
          obtain ⟨sqls, hwritten, hcreate⟩ := ih hw'
          have hcons := hwritten.cons hsql
          have hafter : A.afterTexts h w (sql :: sqls) = A.afterTexts h w' sqls := by
            simp only [Adapter.afterTexts, List.foldl_cons, hsend]
          refine ⟨sql :: sqls, ?_, ?_⟩
          · cases houtcome : (⟨tables⟩ : Registry).createTables d.quoting <;>
              rwa [houtcome] at hcons
          · simp only [hsend, hcreate, hafter]
            cases (⟨tables⟩ : Registry).createTables d.quoting <;> rfl

/-- Creating the tables of a registry ends as writing all of them does, with the same refusal if
there is one.  What has been sent by then are the statements of all tables, or of those before
the first that is refused, in order and without parameters.  So it is all or nothing if and only
if no table is refused or the first one is. -/
theorem run_createTables
    (htakes : A.TakesTexts h Willing) (hw : Willing w) (d : Database) (root : Handle)
    (scopes : List Handle) :
    ∃ sqls,
      d.run A root scopes h w .createTables =
        (Reply.ofOutcome ((d.schema.createTables d.quoting).map fun _ => .done),
          A.afterTexts h w sqls) ∧
      d.schema.Written d.quoting (d.schema.createTables d.quoting) sqls ∧
      ((d.schema.createTables d.quoting = .ok sqls ∨ sqls = []) ↔
        ((∀ table ∈ d.schema.tables, ∃ sql, createTable d.quoting table.1 table.2 = .ok sql) ∨
          ∃ first ∈ d.schema.tables.head?, ∃ failure,
            createTable d.quoting first.1 first.2 = .error failure)) := by
  obtain ⟨sqls, hwritten, hcreate⟩ := create_written htakes hw d d.schema.tables
  refine ⟨sqls, ?_, hwritten, hwritten.all_or_none_iff⟩
  unfold run
  rw [hcreate]
  cases d.schema.createTables d.quoting <;> rfl

/-- The first table has been created when the second turns out to have a default that has no
literal. -/
theorem run_createTables_partial :
    let schema : Value := .dict
      [(.text "a", .dict [(.text "x", .typeName .integer)]),
        (.text "b", .dict [(.text "y",
          .dict [(.text "type", .typeName .text), (.text "default", .handle "z" none)])])]
    ∃ r, Registry.ofValue schema = .ok r ∧
      recorder.TakesTexts false (fun _ => True) ∧
      (⟨r, true⟩ : Database).run recorder false [] false [] .createTables =
        (Reply.ofOutcome (.error (.rejected (.unrenderableDefault (.text "y") (.handle "z" none)))),
          [.statement (.text "CREATE TABLE IF NOT EXISTS \"a\" (\"x\" INTEGER NOT NULL)") []]) := by
  intro schema
  let r : Registry :=
    ⟨[(.text "a", [(.text "x", ColumnDefinition.ofType (.primitive .number))]),
      (.text "b", [(.text "y",
        { ColumnDefinition.ofType (.primitive .string) with default := some (.handle "z" none) })])]⟩
  have hr : Registry.ofValue schema = .ok r := by cbv
  have htakes := Recorder.takesTexts false
  refine ⟨r, hr, htakes, ?_⟩
  obtain ⟨sqls, hrun, -⟩ := run_createTables htakes (w := []) trivial ⟨r, true⟩ false []
  have hrefused : r.createTables true =
      .error (.rejected (.unrenderableDefault (.text "y") (.handle "z" none))) := rfl
  simp only [hrefused] at hrun
  have hlog : ((⟨r, true⟩ : Database).run recorder false [] false [] .createTables).2 =
      [.statement (.text "CREATE TABLE IF NOT EXISTS \"a\" (\"x\" INTEGER NOT NULL)") []] :=
    rfl
  exact hrun.trans (Prod.ext rfl ((congrArg Prod.snd hrun).symm.trans hlog))

end Database

end SqlBuilder
