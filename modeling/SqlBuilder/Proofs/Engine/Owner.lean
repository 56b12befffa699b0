import SqlBuilder.Engine.Owner
import SqlBuilder.Proofs.Engine.Lending

/-!
# Owners spare what is lent

Whatever an owner is asked, its engine is one of the host's, and connections
that are lent stay lent and untouched.
-/

namespace SqlBuilder.Owner

open Host

variable {o : Owner} {h h' : Host} {leases : List Lease}

/-- The engine of an owner is one of those there are. -/
def Known (o : Owner) (h : Host) : Prop :=
  ∀ engine, o.engine = some engine → engine < h.engines.length

theorem Known.mono
    (ho : o.Known h) (hengines : h.engines.length ≤ h'.engines.length) :
    o.Known h' := by
  intro engine hengine
  exact Nat.lt_of_lt_of_le (ho engine hengine) hengines

/-- An engine that is open is kept; a new one is of use or goes at once. -/
theorem openWith_cases
    (o : Owner) (h : Host) (made : Except BlueprintFault Blueprint) :
    (∃ engine, o.engine = some engine ∧ o.openWith made h = (.ok engine, o, h)) ∨
    o.engine = none ∧
      ((∃ fault, made = .error fault ∧
        o.openWith made h = (Outcome.reject (.engineFailed fault.message), o, h)) ∨
      ∃ b, made = .ok b ∧
        (b.dialect ∈ Rejection.supportedDialects ∧ o.openWith made h =
            (.ok (h.create b).1, { o with engine := some (h.create b).1 }, (h.create b).2) ∨
          b.dialect ∉ Rejection.supportedDialects ∧ o.openWith made h =
            (Outcome.reject (.unsupportedDialect b.dialect), o,
              (h.create b).2.dispose (h.create b).1))) := by
  unfold openWith
  cases hengine : o.engine with
  | some engine => exact .inl ⟨engine, rfl, rfl⟩
  | none =>
      refine .inr ⟨rfl, ?_⟩
      cases made with
      | error fault => exact .inl ⟨fault, rfl, rfl⟩
      | ok b =>
          by_cases hdialect : b.dialect ∈ Rejection.supportedDialects
          · exact .inr ⟨b, rfl, .inl ⟨hdialect, if_pos hdialect⟩⟩
          · exact .inr ⟨b, rfl, .inr ⟨hdialect, if_neg hdialect⟩⟩

theorem engine_of_openWith
    (o : Owner) (h : Host) (made : Except BlueprintFault Blueprint) :
    ∀ engine, (o.openWith made h).1 = .ok engine →
      (o.openWith made h).2.1.engine = some engine := by
  rcases o.openWith_cases h made with
    ⟨engine, hengine, hopened⟩ | ⟨_, ⟨_, _, hopened⟩ | ⟨b, _, ⟨_, hopened⟩ | ⟨_, hopened⟩⟩⟩
  all_goals rw [hopened]
  · rintro _ ⟨⟩
    exact hengine
  · nofun
  · rintro _ ⟨⟩
    rfl
  · nofun

/-- What is left of an owner and its host by each question. -/
theorem answerWith_snd
    (o : Owner) (h : Host) (made : Except BlueprintFault Blueprint) (q : Question) :
    (o.answerWith made h q).2 = match q with
      | .url | .isOpen => (o, h)
      | .engine | .dialect | .isPostgres => (o.openWith made h).2
      | .test => (o.testWith made h).2
      | .close => o.close h
      | .within => if (o.testWith made h).1 = none then
          (o.testWith made h).2.1.close (o.testWith made h).2.2 else (o.testWith made h).2 := by
  cases q with
  | url | isOpen | engine | close => rfl
  | dialect | isPostgres =>
      unfold answerWith dialectWith
      rcases o.openWith made h with ⟨_ | _, _, _⟩ <;> rfl
  | test =>
      unfold answerWith
      rcases o.testWith made h with ⟨_ | _, _, _⟩ <;> rfl
  | within =>
      unfold answerWith withinWith
      rcases o.testWith made h with ⟨_ | _, _, _⟩ <;> rfl

/-- What opening an engine and probing the open one preserve, a test preserves. -/
theorem testWith_preserves
    {o : Owner} {h : Host} {made : Except BlueprintFault Blueprint} {P : Owner → Host → Prop}
    (hopen : ∀ o h, P o h → P (o.openWith made h).2.1 (o.openWith made h).2.2)
    (hprobe : ∀ o h engine, P o h → o.engine = some engine → P o (probe h engine).2)
    (hP : P o h) : P (o.testWith made h).2.1 (o.testWith made h).2.2 := by
  have hopened := hopen o h hP
  have hheld := engine_of_openWith o h made
  unfold testWith
  rcases hmade : o.openWith made h with ⟨failure | engine, o', h'⟩
  all_goals rw [hmade] at hopened hheld
  · exact hopened
  · exact hprobe o' h' engine hopened (hheld engine rfl)

/-- What closing preserves besides, every question preserves. -/
theorem answerWith_preserves
    {o : Owner} {h : Host} {made : Except BlueprintFault Blueprint} {P : Owner → Host → Prop}
    (hopen : ∀ o h, P o h → P (o.openWith made h).2.1 (o.openWith made h).2.2)
    (hprobe : ∀ o h engine, P o h → o.engine = some engine → P o (probe h engine).2)
    (hclose : ∀ o h, P o h → P (o.close h).1 (o.close h).2)
    (hP : P o h) (q : Question) :
    P (o.answerWith made h q).2.1 (o.answerWith made h q).2.2 := by
  have htested := testWith_preserves hopen hprobe hP
  rw [answerWith_snd]
  cases q with
  | url | isOpen => exact hP
  | engine | dialect | isPostgres => exact hopen o h hP
  | test => exact htested
  | close => exact hclose o h hP
  | within =>
      simp only
      split
      next => exact hclose _ _ htested
      next => exact htested

/-- Opening makes at most an engine, and disposes of it if it is of no use. -/
theorem openWith_spec
    (hh : h.Holds leases) (ho : o.Known h) (made : Except BlueprintFault Blueprint) :
    ∃ outcome o' h', o.openWith made h = (outcome, o', h') ∧ Spares leases h h' ∧ o'.Known h' ∧
      h'.events = h.events ∧ h'.script = h.script ∧
      ∀ engine, outcome = .ok engine → engine < h'.engines.length := by
  rcases o.openWith_cases h made with
    ⟨engine, hengine, hopened⟩ | ⟨_, ⟨fault, _, hopened⟩ | ⟨b, _, ⟨_, hopened⟩ | ⟨_, hopened⟩⟩⟩
  · refine ⟨_, _, _, hopened, Spares.refl hh, ho, rfl, rfl, ?_⟩
    rintro _ ⟨⟩
    exact ho engine hengine
  · exact ⟨_, _, _, hopened, Spares.refl hh, ho, rfl, rfl, nofun⟩
  · have hnew := create_lt h b
    refine ⟨_, _, _, hopened, spares_create hh b, ?_, rfl, rfl, ?_⟩
    · rintro _ ⟨⟩
      exact hnew
    · rintro _ ⟨⟩
      exact hnew
  · -- The engine goes at once, with a pool from which nothing was ever lent.
    have hcreated := spares_create hh b
    have hdisposed := spares_dispose hcreated.holds (create_lt h b)
    have hspares := hcreated.trans hdisposed
    exact ⟨_, _, _, hopened, hspares, ho.mono hspares.engines, events_dispose_create h b,
      script_dispose _ _, nofun⟩

theorem toEngine_spec
    (hh : h.Holds leases) (ho : o.Known h) :
    ∃ outcome o' h', o.toEngine h = (outcome, o', h') ∧ Spares leases h h' ∧ o'.Known h' ∧
      h'.events = h.events ∧ h'.script = h.script ∧
      ∀ engine, outcome = .ok engine → engine < h'.engines.length :=
  openWith_spec hh ho (Blueprint.ofUrl o.url)

theorem borrows_probe
    (h : Host) (engine : Nat) : Borrows engine h (probe h engine).2 := by
  unfold probe
  rcases hacquire : h.acquire engine with ⟨failure | l, h₁⟩
  · exact .refused hacquire
  · have hexecuted := (serves_start h₁ l).trans
      (serves_execute (h₁.start l) l (.text "SELECT 1") (some []))
    exact .lent hacquire (hexecuted.trans (serves_rollback _ l))

theorem spares_close
    (hh : h.Holds leases) (ho : o.Known h) :
    Spares leases h (o.close h).2 ∧ (o.close h).1.Known (o.close h).2 := by
  unfold close
  cases hengine : o.engine with
  | none => exact ⟨Spares.refl hh, ho⟩
  | some engine =>
      refine ⟨spares_dispose hh (ho engine hengine), ?_⟩
      rintro _ ⟨⟩

/-- Whatever an owner is asked spares what is lent. -/
theorem spares_answer
    (hh : h.Holds leases) (ho : o.Known h) (q : Question) :
    Spares leases h (o.answer h q).2.2 ∧ (o.answer h q).2.1.Known (o.answer h q).2.2 := by
  refine answerWith_preserves (P := fun o' h' => Spares leases h h' ∧ o'.Known h')
    ?_ ?_ ?_ ⟨.refl hh, ho⟩ q
  · rintro o₁ h₁ ⟨hspares, hknown⟩
    obtain ⟨_, _, _, hopened, hopening, hknown', _⟩ :=
      openWith_spec hspares.holds hknown (Blueprint.ofUrl o.url)
    rw [hopened]
    exact ⟨hspares.trans hopening, hknown'⟩
  · rintro o₁ h₁ engine ⟨hspares, hknown⟩ hengine
    have hprobed := (borrows_probe h₁ engine).spares hspares.holds (hknown engine hengine)
    exact ⟨hspares.trans hprobed, hknown.mono hprobed.engines⟩
  · rintro o₁ h₁ ⟨hspares, hknown⟩
    obtain ⟨hclosed, hknown'⟩ := spares_close hspares.holds hknown
    exact ⟨hspares.trans hclosed, hknown'⟩

end SqlBuilder.Owner
