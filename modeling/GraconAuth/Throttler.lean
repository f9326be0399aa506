/-
This file embeds the rate limiting: the throttlers that the application registers,
the decorators of its routes, and the guard that asks every throttler about every
request.

The storage that counts the hits is part of the throttler package. It is a
parameter: whether it blocks a hit depends on the window, on the limit and on the
times of the earlier hits on the same key.
-/

import GraconAuth.VerificationService

namespace GraconAuth

open VerificationService (trim)

/-! ### The module and its decorators -/

/-- The registered throttlers, and the name that an unnamed one has. -/
inductive ThrottlerName where
  | general
  | auth
  | strict
  | default
  deriving DecidableEq, Repr

/-- A throttler: so many requests in so many milliseconds. -/
structure ThrottlerOptions where
  name : ThrottlerName
  ttl : Int
  limit : Nat
  deriving DecidableEq, Repr

/-- `ThrottlerModule.forRoot` of the application. -/
def AppModule.throttlers : List ThrottlerOptions :=
  [⟨.general, 60000, 60⟩, ⟨.auth, 60000, 5⟩, ⟨.strict, 600000, 3⟩]

/-- What a decorator of the package says of one throttler. -/
inductive ThrottleDecorator where
  | throttle (options : ThrottlerOptions)
  | skipThrottle (name : ThrottlerName)
  deriving DecidableEq, Repr

def ThrottleAuth : ThrottleDecorator := .throttle ⟨.auth, 60000, 5⟩

def ThrottleStrict : ThrottleDecorator := .throttle ⟨.strict, 600000, 3⟩

def ThrottleGeneral : ThrottleDecorator := .throttle ⟨.general, 60000, 60⟩

/-- Without an argument only the throttler named `default` is skipped. -/
def SkipThrottle : ThrottleDecorator := .skipThrottle .default

/-- The routes of the controllers, by their methods. -/
inductive Route where
  | health
  | register
  | verifyEmail
  | resendVerification
  | getProfile
  | getPreferences
  | updatePreferences
  | getActivity
  | updateProfile
  | uploadProfileImage
  | changePassword
  | requestReset
  | validateToken
  | resetPassword
  | login
  | refresh
  | upgradeSession
  | logout
  | logoutAll
  | lookupCitizen
  | submitVerification
  | getStatus
  deriving DecidableEq, Repr

/-- The throttling decorator of a route. -/
def Route.decorator : Route → Option ThrottleDecorator
  | .health => none
  | .register | .verifyEmail | .resendVerification | .requestReset | .validateToken | .login
  | .refresh | .upgradeSession | .lookupCitizen => some ThrottleAuth
  | .getProfile | .getPreferences | .updatePreferences | .getActivity | .updateProfile
  | .uploadProfileImage | .logout | .logoutAll => some ThrottleGeneral
  | .changePassword | .resetPassword | .submitVerification => some ThrottleStrict
  | .getStatus => some SkipThrottle

/-- The options of a throttler on a route: an override replaces those of its own name only. -/
def Route.resolve (route : Route) (registered : ThrottlerOptions) : ThrottlerOptions :=
  match route.decorator with
  | some (.throttle options) => if options.name = registered.name then options else registered
  | _ => registered

/-- The throttler does not look at the route. -/
def Route.skips (route : Route) (name : ThrottlerName) : Bool :=
  match route.decorator with
  | some (.skipThrottle skipped) => skipped = name
  | _ => false

/-! ### The guard -/

/-- The header `x-forwarded-for`: one value or several. -/
inductive ForwardedFor where
  | one (value : String)
  | many (first : String) (rest : List String)
  deriving DecidableEq, Repr

/-- What the guard looks at in a request. -/
structure HttpRequest where
  forwardedFor : Option ForwardedFor := none
  remoteAddress : Option String := none
  deriving DecidableEq, Repr

/-- The environment the process is started in. -/
inductive AppEnv where
  | development
  | production
  deriving DecidableEq, Repr

/-- Whether the storage blocks a hit: the window in milliseconds, the limit, the times of the
earlier hits on its key, newest first, and the time of this one. -/
abbrev ThrottlerStorage :=
  (ttl : Int) → (limit : Nat) → (earlier : List Timestamp) → (now : Timestamp) → Bool

/-- A hit that the storage has counted, with its key. -/
structure Hit where
  tracker : String
  route : Route
  name : ThrottlerName
  time : Timestamp
  deriving DecidableEq, Repr

/-- The times of the hits on a key. -/
def hitTimes (tracker : String) (route : Route) (name : ThrottlerName) (hits : List Hit) :
    List Timestamp :=
  (hits.filter fun hit => hit.tracker == tracker && hit.route == route && hit.name == name).map
    (·.time)

namespace CustomThrottlerGuard

/-- The address of the client, the forwarded one first. -/
def getTracker (request : HttpRequest) : String :=
  match request.forwardedFor with
  | some (.many first _) => trim first
  | some (.one value) =>
    if value.isEmpty then request.remoteAddress.getD "unknown"
    else trim (String.ofList (value.toList.takeWhile (· != ',')))
  | none => request.remoteAddress.getD "unknown"

variable (storage : ThrottlerStorage)

/-- Ask the throttlers one after another. The first that blocks the request rejects it, and those
after it are not asked. -/
def handleRequests (tracker : String) (route : Route) (now : Timestamp) :
    List ThrottlerOptions → List Hit → Bool × List Hit
  | [], hits => (true, hits)
  | registered :: rest, hits =>
    if route.skips registered.name then handleRequests tracker route now rest hits
    else
      let options := route.resolve registered
      let earlier := hitTimes tracker route registered.name hits
      let counted := ⟨tracker, route, registered.name, now⟩ :: hits
      if storage options.ttl options.limit earlier now then (false, counted)
      else handleRequests tracker route now rest counted

def canActivate (appEnv : Option AppEnv) (request : HttpRequest) (route : Route)
    (now : Timestamp) (hits : List Hit) : Bool × List Hit :=
  if appEnv.getD .development = .development then (true, hits)
  else handleRequests storage (getTracker request) route now AppModule.throttlers hits

end CustomThrottlerGuard

/-! ### Requests one after another -/

/-- A request, and how long after the last one it arrives. -/
structure Arrival where
  elapsed : Nat
  request : HttpRequest
  route : Route
  deriving DecidableEq, Repr

/-- A request that has reached its route or was rejected by the guard. -/
structure Visit where
  tracker : String
  route : Route
  time : Timestamp
  admitted : Bool
  deriving DecidableEq, Repr

/-- The guard in operation: the time, the hits it has counted and the requests it has decided,
newest first. -/
structure Gatehouse where
  clock : Timestamp
  hits : List Hit
  visits : List Visit

/-- The guard decides a request. -/
def Gatehouse.arrive (storage : ThrottlerStorage) (appEnv : Option AppEnv) (gatehouse : Gatehouse)
    (arrival : Arrival) : Gatehouse :=
  let now := gatehouse.clock + arrival.elapsed
  let decided := CustomThrottlerGuard.canActivate storage appEnv arrival.request arrival.route now
    gatehouse.hits
  { clock := now
    hits := decided.2
    visits :=
      ⟨CustomThrottlerGuard.getTracker arrival.request, arrival.route, now, decided.1⟩ ::
        gatehouse.visits }

/-- The guard decides the requests of a sequence, oldest first. -/
def Gatehouse.serve (storage : ThrottlerStorage) (appEnv : Option AppEnv)
    (arrivals : List Arrival) : Gatehouse :=
  arrivals.foldl (Gatehouse.arrive storage appEnv) ⟨0, [], []⟩

end GraconAuth
