import MonetaryText.Proofs.Entry.Coherence

/-!
Actions one after the other. Nothing breaks off in a run (`Runs`), which leads from reached sessions to
reached ones (`Runs.reached`). What is attained may also be left by actions that broke off (`Attained`).
-/

namespace MonetaryText.Entry

variable {data : LocaleData}

/-- Actions that are performed in their order, none of which breaks off. -/
inductive Runs : Session data → List Action → Session data → Prop where
  | nil {session : Session data} : Runs session [] session
  | cons {session middle later : Session data} {action : Action} {actions : List Action}
      (done : session.perform action = (.ok (), middle)) (rest : Runs middle actions later) :
      Runs session (action :: actions) later

theorem Runs.reached {setup : Setup data} {history : History} {session later : Session data}
    {actions : List Action} (run : Runs session actions later)
    (reached : Reached setup history session) : ∃ history, Reached setup history later := by
  induction run generalizing history with
  | nil => exact ⟨history, reached⟩
  | cons done _ ih => exact ih (reached.performed done)

theorem Runs.exists_middle {session later : Session data} {first second : Action}
    (run : Runs session [first, second] later) :
    ∃ middle, session.perform first = (.ok (), middle) ∧
      middle.perform second = (.ok (), later) := by
  cases run with
  | cons done rest =>
    cases rest with
    | cons again ended =>
      cases ended
      exact ⟨_, done, again⟩

/-- The sessions that a new entry can come to. An action that breaks off leaves one, too. -/
inductive Attained (setup : Setup data) : Session data → Prop where
  | created {start : Start} {session : Session data} (done : create setup start = (.ok (), session)) :
      Attained setup session
  | performed {session : Session data} (before : Attained setup session) (action : Action) :
      Attained setup (session.perform action).2

theorem eq_of_error {outcome : Except Error Unit × Session data} {error : Error}
    (fails : outcome.1 = .error error) : outcome = (.error error, outcome.2) :=
  Prod.ext fails rfl

/-- The choices that show an amount in another way: of a currency and of a locale. -/
def Action.isChoice : Action → Bool
  | chooseCurrency _ | chooseLocale _ => true
  | _ => false

end MonetaryText.Entry
