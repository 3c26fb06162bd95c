import PatchForge.Workshop

/-!
# The toolchain

The compiler, the assembler and the linker of a toolchain folder, and the
arguments they take. Flags are kept as they are written, several words
to a flag, and cut into arguments when a program starts.
-/

namespace PatchForge

namespace Toolchain

def compilerFlags : List String :=
  ["-c", "-Cpp_exceptions off", "-nodefaults", "-proc gekko", "-fp hard", "-lang=c++", "-O4,s",
   "-inline on", "-rtti off", "-sdata 0", "-sdata2 0", "-align powerpc", "-func_align 4",
   "-enum int", "-DGEKKO", "-DMTX_USE_PS"]

def assemblerFlags : List String := ["-c", "-proc gekko"]

def isRegion (text : String) : Bool := regions.contains text

/-- The arguments that flags stand for. -/
def expandFlags (flags : List String) : List String := flags.flatMap Text.words

/-- The arguments that name include folders, all but the first after a separator. -/
def includeArguments : List Path → List String
  | [] => []
  | p :: ps => ["-i", p.text] ++ ps.flatMap fun q => ["-I-", "-i", q.text]

/-- The names of the linked patch and of its map in an output folder. -/
def outputPaths (folder : Path) (region : String) : Path × Path :=
  (folder.child ("CustomCode_" ++ region ++ ".bin"), folder.child ("CustomCode_" ++ region ++ ".map"))

end Toolchain

/-- A toolchain, by its folder. -/
structure Toolchain where
  folder : Path
  deriving Inhabited

namespace Toolchain

def compiler (t : Toolchain) : Path := t.folder.child "deps/CodeWarrior/mwcceppc.exe"

def assembler (t : Toolchain) : Path := t.folder.child "deps/CodeWarrior/mwasmeppc.exe"

def linker (t : Toolchain) (windows : Bool) : Path :=
  t.folder.child ("deps/Kamek/Kamek" ++ if windows then ".exe" else "")

def includeDir (t : Toolchain) : Path := t.folder.child "include"

def symbolsDir (t : Toolchain) : Path := t.folder.child "symbols"

/-- What builds one object file: the source, the object, flags and include folders. -/
structure Job where
  source : Path
  object : Path
  flags : List String
  includes : List Path

/-- The arguments of a job after the flags of its program. -/
def Job.arguments (j : Job) : List String :=
  includeArguments j.includes ++ expandFlags j.flags ++ [j.source.text, "-o", j.object.text]

/-- Runs a program over a job. -/
def build (program : Path) (flags : List String) (verb : String) (failure : Path → ToolchainFault)
    (j : Job) : Work Unit := do
  Work.say (.info (verb ++ " " ++ j.source.text) none)
  Work.makeFolders j.object.parent
  let code ← Work.start program.text (expandFlags flags ++ j.arguments)
  if code ≠ 0 then Work.fail (.toolchain (failure j.source))

def compile (t : Toolchain) (j : Job) : Work Unit :=
  build t.compiler compilerFlags "Compiling" .notCompiled j

def assemble (t : Toolchain) (j : Job) : Work Unit :=
  build t.assembler assemblerFlags "Assembling" .notAssembled j

end Toolchain

end PatchForge
