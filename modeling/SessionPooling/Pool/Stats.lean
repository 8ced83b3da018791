import SessionPooling.Config.Pool

/-! How full a pool is, at one moment. -/
namespace SessionPooling

structure PoolStats where
  kind : PoolKind
  capacity : Nat
  available : Nat
  checkedOut : Nat
deriving DecidableEq

namespace PoolStats

def message (stats : PoolStats) : String :=
  stats.kind.label ++ " pool: " ++ Nat.repr stats.checkedOut ++ " checked out, " ++
    Nat.repr stats.available ++ " available, capacity " ++ Nat.repr stats.capacity

def diagnostic (stats : PoolStats) : String :=
  Text.record "PoolStats"
    [("kind", Text.quoted stats.kind.label), ("capacity", Nat.repr stats.capacity),
      ("available", Nat.repr stats.available), ("checked_out", Nat.repr stats.checkedOut)]

end PoolStats
end SessionPooling
