import ShaderBuild.Files

/-! A file is written to a sibling of its own name first, which then takes its place. -/

namespace ShaderBuild

/-- The files, and what the process adds to the names of its temporary files. -/
structure Disk where
  files : Files := .empty
  process : Nat := 1
  /-- The number of names that were drawn so far. -/
  drawn : Nat := 0
  deriving DecidableEq, Repr

namespace Disk

/-- The disk with other files. -/
def withFiles (disk : Disk) (files : Files) : Disk :=
  { disk with files := files }

/-- The sibling that a write with a number fills first. -/
def sibling (disk : Disk) (path : Path) (number : Nat) : Path :=
  path.append s!".{disk.process}.{number}.tmp"

/-- Where a write stands. -/
inductive Write where
  | waiting
  | drew (number : Nat)
  | made (number : Nat)
  | filled (number : Nat)
  | ended (result : Except FileFault Unit)

/-- Takes the next step of a write of some bytes to a path. -/
def advanceWrite (path : Path) (bytes : List UInt8) (disk : Disk) : Write → Disk × Write
  | .waiting => ({ disk with drawn := disk.drawn + 1 }, .drew disk.drawn)
  | .drew number =>
    match disk.files.write (disk.sibling path number) [] with
    | .ok files => (disk.withFiles files, .made number)
    | .error fault => (disk, .ended (.error fault))
  | .made number =>
    match disk.files.write (disk.sibling path number) bytes with
    | .ok files => (disk.withFiles files, .filled number)
    | .error fault => (disk, .ended (.error fault))
  | .filled number =>
    match disk.files.rename (disk.sibling path number) path with
    | .ok files => (disk.withFiles files, .ended (.ok ()))
    | .error fault =>
      match disk.files.remove (disk.sibling path number) with
      | .ok files => (disk.withFiles files, .ended (.error fault))
      | .error _ => (disk, .ended (.error fault))
  | .ended result => (disk, .ended result)

/-- The remaining steps of a write, one after the other. -/
def finishWrite (path : Path) (bytes : List UInt8) :
    Nat → Disk → Write → Disk × Except FileFault Unit
  | _, disk, .ended result => (disk, result)
  | 0, disk, _ => (disk, .error .missing)
  | steps + 1, disk, write =>
    let (disk, write) := advanceWrite path bytes disk write
    finishWrite path bytes steps disk write

/-- Writes a file through its sibling. A write has four steps. -/
def writeAtomically (disk : Disk) (path : Path) (bytes : List UInt8) :
    Disk × Except FileFault Unit :=
  finishWrite path bytes 4 disk .waiting

end Disk

end ShaderBuild
