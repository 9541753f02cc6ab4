import ShaderBuild.Cache.Request

/-! A cache in the hands of one owner, who does one thing after the other. -/

namespace ShaderBuild

/-- What the owner of a cache works with. There is no cache after a directory could not be made. -/
structure Session where
  service : Service
  live : Bool := true

/-- What the owner of a cache can do. -/
inductive Deed where
  | get (request : Request)
  | flush
  | invalidate (key : Fingerprint)
  | setOptions (options : Options)
  | setLimit (limit : Nat)
  | setDirectory (directory : Path)
  /-- Another cache takes the place of the one there is. -/
  | renew (compiler : Compiler) (options : Options) (memoryLimit : Option Nat)
    (diskDirectory : Option Path)
  /-- The cache is given up. -/
  | drop

namespace Session

/-- Goes on with a cache that was changed, or gives it up if that failed. -/
def settle : Except Failure Unit × Service → Session
  | (.ok (), service) => ⟨service, true⟩
  | (.error _, service) => ⟨service.close, false⟩

/-- What a request is answered, if there is a cache. -/
def answer? (session : Session) (request : Request) : Option Answer :=
  if session.live then (session.service.request request).2.answer? else none

/-- Does something with the cache that is there. -/
def use (service : Service) : Deed → Session
  | .get request => ⟨(service.request request).1, true⟩
  | .flush => ⟨service.flush, true⟩
  | .invalidate key => ⟨(service.invalidate key).2, true⟩
  | .setOptions options => ⟨service.withCache { service.cache with options := options }, true⟩
  | .setLimit limit =>
    ⟨service.withCache { service.cache with memoryLimit := some limit }, true⟩
  | .setDirectory directory => settle (service.useDirectory directory)
  | .renew compiler options memoryLimit diskDirectory =>
    let service := service.close.withCache
      { compiler := compiler, options := options, memoryLimit := memoryLimit }
    match diskDirectory with
    | none => ⟨service, true⟩
    | some directory => settle (service.useDirectory directory)
  | .drop => ⟨service.close, false⟩

/-- Does something. Without a cache only a new one can be set up. -/
def perform (session : Session) (deed : Deed) : Session :=
  if session.live then use session.service deed
  else
    match deed with
    | .renew .. => use session.service deed
    | _ => session

/-- Does one thing after the other. -/
def run (session : Session) (deeds : List Deed) : Session :=
  deeds.foldl perform session

end Session

end ShaderBuild
