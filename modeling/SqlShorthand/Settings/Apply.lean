import SqlShorthand.Session.Basic
import SqlShorthand.Settings.Basic

/-!
# Settings/Apply — a session set up by a settings file

Connections are registered in their order; the first that cannot be stops the work, and what was
done before it stays.  Cache and paging follow once all connections are in.
-/

namespace SqlShorthand

variable {γ β σ : Type}

/-- Takes the settings of the paging; numbers that are refused change nothing. -/
def Paging.applySection (p : Paging) (given : PagingSection) : Paging :=
  let p := match given.rpp with
    | some n => (p.setRpp n).2
    | none => p
  let p := match given.page with
    | some n => (p.setPage n).2
    | none => p
  { p with
    nextLabel := given.nextLabel <|> p.nextLabel
    prevLabel := given.prevLabel <|> p.prevLabel }

/-- The cache of a section; `newCache` makes one for its path. -/
def CacheSection.build (c : CacheSection) (newCache : Option String → Cache σ) :
    Except Error (Cache σ) :=
  let cache := newCache c.path
  match c.expire with
  | none => .ok cache
  | some text => (Expiry.parse text).map cache.setExpireGlobal

namespace Session

/-- Sets key columns on a connection, in turn. -/
def setKeys (s : Session γ β σ) (id : ConnectionId) (keys : List (String × String)) :
    Session γ β σ :=
  { s with registry := s.registry.modify id fun c => { c with keys := c.keys.setAll keys } }

/-- Registers a connection of a settings file, with its key columns. -/
def registerEntry (s : Session γ β σ) (e : ConnectionEntry) :
    Except Error ConnectionId × Session γ β σ :=
  match e.toConfig with
  | .error err => (.error err, s)
  | .ok config =>
    match s.register config with
    | (.error err, s) => (.error err, s)
    | (.ok id, s) => (.ok id, s.setKeys id e.keys)

/-- Registers connections in turn, up to the first that cannot be. -/
def registerAll (s : Session γ β σ) :
    List ConnectionEntry → Except Error (List ConnectionId) × Session γ β σ
  | [] => (.ok [], s)
  | e :: rest =>
    match s.registerEntry e with
    | (.error err, s) => (.error err, s)
    | (.ok id, s) =>
      match s.registerAll rest with
      | (.error err, s) => (.error err, s)
      | (.ok ids, s) => (.ok (id :: ids), s)

end Session

namespace Settings

/-- The cache that the settings ask for, if they do. -/
def buildCache (settings : Settings) (newCache : Option String → Cache σ) :
    Except Error (Option (Cache σ)) :=
  match settings.cache with
  | none => .ok none
  | some c => (c.build newCache).map some

/-- The session with its cache and paging set up. -/
def applySections (settings : Settings) (newCache : Option String → Cache σ)
    (s : Session γ β σ) : Except Error Unit × Session γ β σ :=
  match settings.buildCache newCache with
  | .error err => (.error err, s)
  | .ok cache =>
    (.ok (),
     { s with
       cache := cache <|> s.cache
       paging := match settings.paging with
         | some p => s.paging.applySection p
         | none => s.paging })

/-- Sets a session up: the ids of its new connections, or what stopped it. -/
def apply (settings : Settings) (newCache : Option String → Cache σ) (s : Session γ β σ) :
    Except Error (List ConnectionId) × Session γ β σ :=
  match s.registerAll settings.connections with
  | (.error err, s) => (.error err, s)
  | (.ok ids, s) =>
    match settings.applySections newCache s with
    | (.error err, s) => (.error err, s)
    | (.ok (), s) => (.ok ids, s)

end Settings

end SqlShorthand
