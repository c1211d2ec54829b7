import PipelineConfig.Digest.Blake3
import PipelineConfig.Material

/-!
# Fingerprints

A fingerprint stands for the external source of a material, whatever name, folder or polling the
material has. It is the digest of the bytes of `identity`: the kind of source and the attributes
that identify it, each after a separator.
-/

namespace PipelineConfig

namespace Source

/-- The attributes that tell one source of a kind from another. Upstream names count in lower
case, an absent user or domain as empty. -/
def identifyingAttributes : Source → List String
  | git url branch => [url, branch]
  | svn url username checkExternals =>
    [url, username.getD "", if checkExternals then "true" else "false"]
  | hg url => [url]
  | p4 port view username => [port, view, username.getD ""]
  | tfs url domain projectPath username =>
    [url, domain.getD "", projectPath, username.getD ""]
  | dependency pipeline stage => [pipeline.folded, stage.folded]
  | package packageId => [packageId]
  | pluggableScm scmId => [scmId]

/-- What stands before each attribute. -/
def separator : String := "<|>"

/-- The text a source is identified by. -/
def identity (source : Source) : String :=
  source.identifyingAttributes.foldl (fun text part => text ++ separator ++ part) source.typeName

end Source

namespace Material

/-- The bytes that are digested. -/
def identityBytes (material : Material) : List UInt8 :=
  material.source.identity.toByteArray.data.toList

/-- The digest that stands for the source of the material. -/
def fingerprint (material : Material) : String := Blake3.hex material.identityBytes

end Material

end PipelineConfig
