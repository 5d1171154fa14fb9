/-
What a link does with the statements that pass it.

A decorating link puts a facade around each new statement of its kinds.
The facade's level is one more than the number of links below, so it is
above every facade those links have made.

A cache also looks whether it has the statement already. It asks the
rest of the chain first whether the connection is closed, for a
statement from the cache never reaches the end of the chain, where
closed connections are found out otherwise.
-/
import PooledChain.Chain.Terminal

namespace PooledChain

/-- How the links below the one at hand answer. -/
abbrev Next := ConnectionOp → Act ConnectionReply

namespace Act

/-- The way in which a link's facades behave; `none` where the link
leaves the statement as it is. What the link remembers about the new
statement is noted on the way, `upcoming` being the number that the
facade will have. -/
def behaviour? (link : Link) (self : LinkId) (kind : StatementKind) (sql : Option String)
    (upcoming : LayerId) : Act (Option Behaviour) := do
  let s ← get
  match link with
  | .decorator => return some .plain
  | .cache _ =>
    match s.caches.get? self, sql with
    | some store, some _ => return some (.cached self store.generation false)
    | _, _ => return none
  | .leakTracker =>
    match s.trackers.get? self with
    | some t =>
      let longer := { entries := t.entries ++ [(t.next, upcoming)], next := t.next + 1 }
      set { s with trackers := s.trackers.set self longer }
      return some (.tracked self t.next)
    | none => return none
  | .recorder config =>
    match s.recorders.get? self with
    | some table => return some (.recording table config)
    | none => return none
  | .counter =>
    set { s with counters := s.counters.modify self fun t => { t with created := t.created + 1 } }
    return some (.counting self)
  | .watcher label _ answered =>
    set { s.note label (.decorated kind sql) with watched := s.watched ++ [upcoming] }
    return some (.watched label answered)
  | _ => return none

/-- The statement as the callers above the link see it. -/
def decorate (link : Link) (self : LinkId) (kind : StatementKind) (sql : Option String)
    (statement : LayerId) : Act LayerId := do
  match ← behaviour? link self kind sql (← get).layers.length with
  | none => return statement
  | some behaviour =>
    let core := Core.facade
      { level := self.place + 1, delegate := some statement, closed := false, behaviour }
    modifyGet (·.addLayer { sql, kind, connection := some self.connection, core })

/-- Closes the statements that a tracker still lists, in the order in
which they were made. A failure to close one does not keep the others
open. -/
def closeListed : List (Nat × LayerId) → Act Unit
  | [] => return ()
  | (_, id) :: rest => do
    if !(← get).isClosed id then
      let _ ← attempt (closeStatement id)
    closeListed rest

/-- What a link does before the connection closes. -/
def beforeClose (link : Link) (self : LinkId) : Act Unit := do
  match link with
  | .leakTracker =>
    let s ← get
    match s.trackers.get? self with
    | some t =>
      set { s with trackers := s.trackers.set self { t with entries := [] } }
      closeListed t.entries
    | none => return ()
  | .watcher label _ _ => modify (·.note label .connectionClosing)
  | _ => return ()

/-- The way of an operation past a decorating link: a statement that is
created is decorated if its kind is one of the link's, closing is
prepared for, and the rest passes. -/
def intercept (link : Link) (self : LinkId) (next : Next) (op : ConnectionOp) :
    Act ConnectionReply := do
  match op with
  | .close =>
    beforeClose link self
    next .close
  | op =>
    match op.creates? with
    | some kind =>
      if link.decorates.contains kind then
        let statement ← (← next op).toStatement op.name
        return .statement (← decorate link self kind op.sql? statement)
      else next op
    | none => next op

/-- A statement from the cache, if it has one of that kind for that SQL
and it is still open. One that was closed behind the cache's back is
thrown away. -/
def reuse? (self : LinkId) (next : Next) (kind : StatementKind) (sql : String) :
    Act (Option LayerId) := do
  if ((← get).caches.get? self).isNone then return none
  if ← (← next .isClosed).toBool "is_closed" then throw (.closed .connection)
  let s ← get
  match s.caches.get? self with
  | none => return none
  | some store =>
    match store.find? sql with
    | none => return none
    | some id =>
      if ((s.layer? id).map (·.kind)) ≠ some kind then return none
      else
        set { s with caches := s.caches.set self (store.remove sql) }
        if s.isClosed id then
          discardParked id
          return none
        else return some id

/-- The way of an operation past a cache. -/
def throughCache (config : CacheConfig) (self : LinkId) (next : Next) (op : ConnectionOp) :
    Act ConnectionReply := do
  let found ← match op.creates?, op.sql? with
    | some kind, some sql =>
      if config.kinds.contains kind then reuse? self next kind sql else pure none
    | _, _ => pure none
  match found with
  | some id => return .statement id
  | none => intercept (.cache config) self next op

end Act

end PooledChain
