import SessionPooling.Scenario.Stage
import SessionPooling.Scenario.Step

/-! What the steps do that act on the world outside the library: on the clock, and on the
services in memory, behind the back of whoever uses them or through direct requests. -/
namespace SessionPooling.Scenario

namespace ClockStep

def play : ClockStep → Play Answer
  | advance d => do
    Play.onClock (·.advance d)
    pure .nothing
  | set time => do
    Play.onClock (·.set time)
    pure .nothing
  | sleeps => do
    pure (.sleeps (← Play.clock).sleeps)

end ClockStep

namespace BackendStep

def change (backend : BackendId) (f : MemoryBackend → MemoryBackend) : Play Answer := do
  Play.onFleet (·.onMemory backend f)
  pure .nothing

def look (backend : BackendId) (view : MemoryBackend → Answer) : Play Answer := do
  pure (.ofOption view (← Play.memory? backend))

def play (backend : BackendId) : BackendStep → Play Answer
  | expire id => change backend (·.expire id)
  | expireAll => change backend (·.expireAll)
  | failCommits failure times => change backend (Nat.repeat (·.failCommit failure) times)
  | failPings failure times => change backend (Nat.repeat (·.failPing failure) times)
  | arrange kind fault times => do
    Play.onFleet (·.onBackend backend (Nat.repeat (·.arrange kind fault) times))
    pure .nothing
  | setSurplus count => do
    Play.onFleet (·.onBackend backend fun b => { b with surplus := count })
    pure .nothing
  | isLive id => look backend fun memory => .flag (memory.isLive id)
  | templateOf id => look backend fun memory => .ofOption .template (memory.templateOf? id)
  | committed => look backend fun memory => .writes memory.committed
  | callsTotal => look backend fun memory => .number memory.callsTotal
  | role => do
    pure (.ofOption .text (← Sys.act (Act.roleOf backend)))
  | request asked => do
    pure (.ofReply asked (← Sys.act (Act.ask backend asked)))

end BackendStep

end SessionPooling.Scenario
