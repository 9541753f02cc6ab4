import ShaderBuild.Cache.Crowd
import ShaderBuild.Cache.Session

/-! A cache that several threads use while its owner changes the settings. -/

namespace ShaderBuild

/-- A cache at work with the requests of several threads, in the hands of an owner. There is no
cache after a directory could not be made. -/
structure Custody where
  crowd : Crowd
  live : Bool := true

/-- What can happen next. -/
inductive Event where
  | move (move : Move)
  | setOptions (options : Options)
  | setLimit (limit : Nat)
  | setDirectory (directory : Path)

namespace Custody

/-- A cache that nobody uses yet. -/
def of (service : Service) : Custody := { crowd := { service := service } }

/-- The cache. -/
def cache (custody : Custody) : Cache := custody.crowd.service.cache

/-- The owner does something with the cache; the requests under way stay where they are. -/
def use (custody : Custody) (deed : Deed) : Custody :=
  let session := Session.use custody.crowd.service deed
  ⟨{ custody.crowd with service := session.service }, session.live⟩

/-- Lets something happen. Without a cache nothing happens any more. -/
def take (custody : Custody) (event : Event) : Custody :=
  if custody.live then
    match event with
    | .move move => { custody with crowd := custody.crowd.move move }
    | .setOptions options => custody.use (.setOptions options)
    | .setLimit limit => custody.use (.setLimit limit)
    | .setDirectory directory => custody.use (.setDirectory directory)
  else custody

/-- Lets one thing happen after the other. -/
def run (custody : Custody) (events : List Event) : Custody :=
  events.foldl take custody

end Custody

end ShaderBuild
