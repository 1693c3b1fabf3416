import ClassAtlas.SourceType.Parser
import ClassAtlas.Whitelist.Basic

/-!
# Inspecting a configuration

Two questions that need no class metadata: how the whitelist treats some names,
and how some descriptors translate under it.
-/

namespace ClassAtlas

structure NameReport where
  name : ClassName
  whitelisted : Bool
  fixedPath : String
  aliasName : String

namespace Whitelist

def reportName (whitelist : Whitelist) (raw : String) : NameReport :=
  let name := ClassName.ofPath (String.ofList (Text.trim raw.toList))
  { name
    whitelisted := whitelist.admits name
    fixedPath := name.fixedPath
    aliasName := name.aliasName }

end Whitelist

structure DescriptorReport where
  descriptor : String
  result : Except Cause TargetType

namespace DescriptorReport

def failed (report : DescriptorReport) : Bool :=
  match report.result with
  | .ok _ => false
  | .error _ => true

def text (report : DescriptorReport) : String :=
  match report.result with
  | .ok type => type.spelling
  | .error cause => "error: " ++ cause.message

end DescriptorReport

namespace SourceType

def parse (raw : String) : Except Cause SourceType :=
  match parse? raw with
  | some type => .ok type
  | none => .error (.unsupportedType raw)

theorem parse_eq_ok_iff {raw : String} {type : SourceType} :
    parse raw = .ok type ↔ parse? raw = some type := by
  unfold parse
  cases parse? raw <;> simp

theorem parse_eq_error_iff {raw : String} {cause : Cause} :
    parse raw = .error cause ↔ parse? raw = none ∧ cause = .unsupportedType raw := by
  unfold parse
  cases parse? raw <;> simp [eq_comm]

end SourceType

def translateDescriptor (registry : Registry) (position : Position) (raw : String) :
    Except Cause TargetType :=
  (SourceType.parse raw).map (SourceType.translate registry position)

def reportDescriptor (registry : Registry) (position : Position) (raw : String) :
    DescriptorReport where
  descriptor := raw
  result := translateDescriptor registry position raw

end ClassAtlas
