import ShaderBuild.Heap

/-! What the graphics driver is told when a shader module is made. -/

namespace ShaderBuild.Vulkan

/-- The record that describes a module to the graphics driver. -/
structure ModuleInfo where
  /-- The number that names this kind of record. -/
  structureType : Nat := 16
  /-- The size of the code in bytes. -/
  codeSize : Nat
  code : List UInt32

/-- Describes the words of a module. -/
def moduleInfo (words : List UInt32) : ModuleInfo :=
  { codeSize := 4 * words.length, code := words }

/-- The size that the graphics driver is told is the size of the module's image. -/
theorem codeSize_moduleInfo (heap : Heap) (shader : CompiledShader) :
    (moduleInfo (shader.words heap)).codeSize = shader.byteLength heap := by
  -- Both are four bytes a word.
  rfl

end ShaderBuild.Vulkan
