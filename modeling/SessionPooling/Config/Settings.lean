import SessionPooling.Config.Pool
import SessionPooling.Config.Retry

/-! The settings of a whole application: one pool and one executor. -/
namespace SessionPooling

structure Settings where
  pool : PoolConfig
  retry : RetryConfig
deriving DecidableEq

namespace Settings

def standard : Settings := ⟨.standard, .standard⟩

def fileName : String := "spool.toml"

/-- The pool is judged first. -/
def validate (settings : Settings) : Except ConfigProblem Unit := do
  settings.pool.validate
  settings.retry.validate

end Settings
end SessionPooling
