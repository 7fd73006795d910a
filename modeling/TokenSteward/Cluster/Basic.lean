import TokenSteward.Cluster.Request

/-! # The cluster

The stores of the three kinds of objects, the vault, and a clock.
-/

namespace TokenSteward

open TokenSteward.Resource TokenSteward.Secret TokenSteward.Cluster

/-- The three stores (the last one `data_updates`), the vault and the clock, in seconds since 1970. -/
structure Cluster where
  tokens : Store TokenSpec TokenStatus
  bindings : Store BindingSpec BindingStatus
  updates : Store DataUpdateSpec Unit
  vault : Vault
  clock : Int64

namespace Cluster

/-- How a cluster begins: at an instant, and with what each of its stores draws. -/
structure Outset where
  clock : Int64
  tokens : Draws
  bindings : Draws
  updates : Draws

/-- At an instant, no serial number comes twice. -/
def Outset.serial (clock : Int64) : Outset := ⟨clock, .serial "t", .serial "b", .serial "u"⟩

/-- The cluster without objects and records. -/
def empty (o : Outset) : Cluster :=
  ⟨Store.empty AccessToken.kind o.tokens, Store.empty Binding.kind o.bindings,
    Store.empty DataUpdate.kind o.updates, Table.empty, o.clock⟩

/-- The present as a timestamp. -/
def now (c : Cluster) : Timestamp := Timestamp.ofSeconds c.clock.toInt

/-- What a log shows of any cluster. -/
def describe (_ : Cluster) : String := "Cluster(..)"

end Cluster

end TokenSteward
