import WinrtLint.Archive.Extraction
import WinrtLint.Xml.Reader

/-!
# Manifests of the software development kit

A build of the kits has two manifests.  They list the contracts of the build,
and each contract has one archive.
-/

namespace WinrtLint.Sdk

/-- A contract as a manifest lists it. -/
structure Contract where
  name : String
  version : String
  deriving DecidableEq, Repr

/-- Where the archive of a contract is, below the root of the kits. -/
def Contract.archive (contract : Contract) (root : Files.Path) : Files.Path :=
  (((root.child "References").child contract.name).child contract.version).child
    (contract.name ++ ".winmd")

/-- The full version of a build. -/
def fullVersion (build : String) : String :=
  "10.0." ++ build ++ ".0"

/-- The two manifests of a build. -/
def manifests (root : Files.Path) (build : String) : List Files.Path :=
  let version := fullVersion build
  [(((root.child "Platforms").child "UAP").child version).child "Platform.xml",
    (((root.child "Extension SDKs").child "WindowsDesktop").child version).child
      "SDKManifest.xml"]

/-- The contract that an element lists; both its attributes have to be there. -/
def contractOf? (element : Xml.Element) : Option Contract :=
  if element.name.name ≠ "ApiContract" then none
  else
    match element.attribute? "name", element.attribute? "version" with
    | some name, some version =>
        if name = "" || version = "" then none else some ⟨name, version⟩
    | _, _ => none

/-- The part of the program that warns about manifests. -/
def warningSource : String :=
  "SdkManifest"

/-- Why a manifest gives no contracts. -/
inductive ManifestFault where
  /-- The file cannot be read. -/
  | file (error : Files.FileError)
  /-- The file is not well-formed XML. -/
  | malformed
  deriving DecidableEq, Repr

/-- The fault of a manifest whose content cannot be read. -/
def ManifestFault.ofEncoding (manifest : Files.Path) :
    Xml.EncodingFault → ManifestFault
  | .malformed => .malformed
  | .unknown => .file ⟨.unknownEncoding, manifest⟩
  | .multiByte => .file ⟨.multiByteEncoding, manifest⟩
  | .empty => .file ⟨.emptyEncoding, manifest⟩
  | .strict => .file ⟨.strictEncoding, manifest⟩

/-- The contracts of a manifest in document order. -/
def contractsOf (files : Files.Node) (manifest : Files.Path) :
    Except ManifestFault (List Contract) :=
  match files.read manifest with
  | .error error => .error (.file error)
  | .ok content =>
      match Xml.elementsOf content.toList with
      | .error fault => .error (.ofEncoding manifest fault)
      | .ok elements => .ok (elements.filterMap contractOf?)

/-- The warning about a manifest that gives no contracts. -/
def manifestWarning (manifest : Files.Path) : Warning :=
  ⟨warningSource, "cannot read " ++ manifest.text⟩

/-- The contracts of a manifest, or a warning and none; foreign faults are passed on. -/
def readContracts (files : Files.Node) (manifest : Files.Path) :
    Except Files.FileError (List Warning × List Contract) :=
  match contractsOf files manifest with
  | .ok contracts => .ok ([], contracts)
  | .error (.file error) =>
      if error.fault.isForeign then .error error else .ok ([manifestWarning manifest], [])
  | .error .malformed => .ok ([manifestWarning manifest], [])

/-- The archives that manifests list, in order, and the warnings up to a fault. -/
def listedArchives (files : Files.Node) (root : Files.Path) :
    List Files.Path → List Warning × Except Files.FileError (List Files.Path)
  | [] => ([], .ok [])
  | manifest :: rest =>
      match readContracts files manifest with
      | .error error => ([], .error error)
      | .ok (warnings, contracts) =>
          let (later, others) := listedArchives files root rest
          (warnings ++ later,
            others.map fun paths => contracts.map (fun contract => contract.archive root) ++ paths)

/-- The archives of a build, in the order of its manifests. -/
def archivePaths (files : Files.Node) (root : Files.Path) (build : String) :
    List Warning × Except Files.FileError (List Files.Path) :=
  listedArchives files root (manifests root build)

/-- A root of the kits is needed, and none is known. -/
inductive RootMissing where
  | rootMissing
  deriving DecidableEq, Repr

/-- The wording of a missing root. -/
def RootMissing.message : RootMissing → String
  | .rootMissing => "sdk_root is required to resolve an SDK version"

/-- Read the archives of a build one after another. -/
def readBuild
    (extractor : Extractor)
    (files : Files.Node)
    (root : Files.Path)
    (build : String) :
    Extractor.Yield × Extractor :=
  match archivePaths files root build with
  | (warnings, .error error) => (⟨warnings, .error error⟩, extractor)
  | (warnings, .ok paths) =>
      let (yielded, extractor) := extractor.readArchives files paths
      (⟨warnings ++ yielded.warnings, yielded.types⟩, extractor)

/-- Read the archives of a build below a root that may not be known. -/
def readBuild?
    (extractor : Extractor)
    (files : Files.Node)
    (root : Option Files.Path)
    (build : String) :
    Except RootMissing (Extractor.Yield × Extractor) :=
  match root with
  | none => .error .rootMissing
  | some root => .ok (readBuild extractor files root build)

end WinrtLint.Sdk
