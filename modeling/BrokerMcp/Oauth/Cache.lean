import BrokerMcp.Library.Assoc
import BrokerMcp.Library.Trace
import BrokerMcp.TokenExchange.Response

/-!
# The token cache

`otter.go`. Instants and durations are in nanoseconds. The backend keeps an entry from its write on
for the duration that the calculator returned, and forever if that is not positive; it may evict an
entry at any time. Each action carries the clock readings that it makes, and none is before the last.
-/

namespace BrokerMcp.Oauth
open TokenExchange (sub)

structure CachedCredential where
  value : String
  expiresAt : Int
deriving DecidableEq

inductive GetResult where
  | hit (entry : CachedCredential)
  | miss
deriving DecidableEq

inductive PutStatus where
  | stored
  | droppedTTL
deriving DecidableEq

def deriveTTL (now expiresAt maxTTL : Int) : Int :=
  let ttl := min (sub expiresAt now) maxTTL
  if ttl ≤ 0 then 0 else ttl

def nanosecond : Int := 1

def expiryCalculator (maxTTL now : Int) (entry : CachedCredential) : Int :=
  let ttl := deriveTTL now entry.expiresAt maxTTL
  if ttl > 0 then ttl else nanosecond

/-- An entry and the instant it is kept until, or `none` for one that never expires. -/
structure Node where
  entry : CachedCredential
  expiresAt : Option Int

def keepFrom (written ttl : Int) : Option Int := if ttl > 0 then some (written + ttl) else none

def Node.kept (node : Node) (now : Int) : Bool := node.expiresAt.all fun t => decide (now < t)

structure OtterTokenCache where
  maxTTL : Int
  nodes : List (String × Node)
  clock : Int

def OtterTokenCache.getIfPresent (o : OtterTokenCache) (key : String) (now : Int) :
    Option CachedCredential :=
  ((o.nodes.lookup key).filter fun node => node.kept now).map Node.entry

def get (retained : Option CachedCredential) (now : Int) : GetResult :=
  match retained with
  | none => .miss
  | some entry => if ¬ now < entry.expiresAt then .miss else .hit entry

def OtterTokenCache.get (o : OtterTokenCache) (key : String) (looked now : Int) : GetResult :=
  Oauth.get (o.getIfPresent key looked) now

/-- `Put` reads the clock at `now`; the write, and the calculator in it, come at `written`. -/
def OtterTokenCache.put (o : OtterTokenCache) (key : String) (entry : CachedCredential)
    (now written : Int) : PutStatus × OtterTokenCache :=
  if deriveTTL now entry.expiresAt o.maxTTL = 0 then (.droppedTTL, o)
  else
    let node := ⟨entry, keepFrom written (expiryCalculator o.maxTTL written entry)⟩
    (.stored, { o with nodes := Assoc.put key node o.nodes })

def OtterTokenCache.remove (o : OtterTokenCache) (key : String) : OtterTokenCache :=
  { o with nodes := Assoc.drop key o.nodes }

inductive CacheAction where
  | get (key : String) (looked now : Int)
  | put (key : String) (entry : CachedCredential) (now written : Int)
  | delete (key : String)
  | evict (key : String)

def OtterTokenCache.step (o : OtterTokenCache) : CacheAction → Option OtterTokenCache
  | .get _ looked now =>
      if o.clock ≤ looked ∧ looked ≤ now then some { o with clock := now } else none
  | .put key entry now written =>
      if o.clock ≤ now ∧ now ≤ written then
        some { (o.put key entry now written).2 with clock := written }
      else none
  | .delete key => some (o.remove key)
  | .evict key => some (o.remove key)

end BrokerMcp.Oauth
