import SessionPooling.Scenario.OutsideSteps
import SessionPooling.Scenario.PoolSteps
import SessionPooling.Scenario.SessionSteps
import SessionPooling.Scenario.WorkSteps

/-! Playing the steps of a scenario. Steps inside a checkout or a run are played by the same
rules as those outside; a failure or panic among them ends the work that they are part of,
shows in how the checkout or run ended, and goes no further. -/
namespace SessionPooling.Scenario

/-- Shows the answer of a step that does not end the work that it is part of. -/
def shown (play : Play Answer) : Play (Option Answer × Signal) := do
  pure (some (← play), .goOn)

mutual

/-- What a step does, what it shows if anything, and what it means for the work that it is
part of. -/
def Step.play : Step → Play (Option Answer × Signal)
  | .clock step => shown step.play
  | .pool pool step => shown (step.play pool)
  | .session slot step => shown (step.play slot)
  | .slots => shown do
    pure (.texts (← Play.stage).sessions.names)
  | .transaction place step decisive => do
    let (answer, signal) ← step.play place decisive
    pure (some answer, signal)
  | .backend backend step => shown (step.play backend)
  | .executor executor step => shown (step.play executor)
  | .fail e => pure (none, .fail e)
  | .panic => pure (none, .panic)
  | .checkout pool timeout diagnosed body =>
    shown (checkout pool timeout diagnosed (playAll body))
  | .run executor slot limit script => shown (runOnSlot executor slot limit (playEach script))
  | .runPooled executor pool script =>
    shown (shownRun
      (Executor.runPooled executor ExecutorStep.mainThread pool (scripted (playEach script))))

/-- Steps one after another, up to the first that ends the work that they are part of. -/
def playAll : List Step → Part
  | [] => pure ([], .goOn)
  | step :: rest => do
    Play.wait Play.pause
    match ← step.play with
    | (answer, .goOn) => do
      let (answers, signal) ← playAll rest
      pure (answer.toList ++ answers, signal)
    | (answer, signal) => pure (answer.toList, signal)

def playEach : List (List Step) → List Part
  | [] => []
  | steps :: rest => playAll steps :: playEach rest

end

end SessionPooling.Scenario
