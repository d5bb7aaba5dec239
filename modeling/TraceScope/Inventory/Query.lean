import TraceScope.Inventory

/-!
# Searches by any value

A search may be made with a key of any shape. Keys compare by value; a key that is no whole number
finds nothing, and a list or an object is no key at all.
-/

namespace TraceScope

namespace Inventory

/-- The whole number that a key is, if it is one. -/
def idOf (v : Value) : Except Fault (Option Int) := do
  match ← v.key with
  | .int n => return some n
  | _ => return none

def searchTable {ν : Type} (table : Table Int ν) (lookup : Lookup) (key : Value) :
    Except Fault ν := do
  found lookup ((← idOf key).bind table.get?)

def searchService (inv : Inventory) (id : Value) : Except Fault Service :=
  searchTable inv.services (.service id) id

def searchServiceAt (inv : Inventory) (address : Value) : Except Fault Int :=
  searchTable inv.serviceIds (.serviceAt address) address

def searchInstance (inv : Inventory) (id : Value) : Except Fault Instance :=
  searchTable inv.instances (.serviceInstance id) id

def searchInstanceAt (inv : Inventory) (service address : Value) : Except Fault Int := do
  let s ← idOf service
  let a ← idOf address
  found (.serviceInstanceAt service address) do inv.instanceIds.get? (← s, ← a)

def searchEndpoint (inv : Inventory) (id : Value) : Except Fault Endpoint :=
  searchTable inv.endpoints (.endpoint id) id

end Inventory

end TraceScope
