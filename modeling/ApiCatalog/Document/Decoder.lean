import ApiCatalog.Document

/-!
# Decoding of API descriptions

An API description taken out of a document tree. Fields that are not given have default values.
-/

namespace ApiCatalog

open Decoder

section Readers

variable (source : Source)

/-- The fields of the name and version of an API. -/
def infoFields : List (Field Info) := [
  ⟨"title", fun node info => do return { info with title := ← readText source node }⟩,
  ⟨"version", fun node info => do return { info with version := ← readText source node }⟩,
  textField source "description" fun text info => { info with description := text }]

/-- Reads the name and version of an API. -/
def readInfo (depth : Nat) (node : Node) : Decoder Info :=
  readRecord source "Info" {} (fun _ => infoFields source) depth node

/-- The fields of a parameter. -/
def parameterFields (depth : Nat) : List (Field Parameter) := [
  textField source "$ref" fun text parameter => { parameter with reference := text },
  textField source "name" fun text parameter => { parameter with name := text },
  textField source "in" fun text parameter => { parameter with location := text },
  textField source "description" fun text parameter => { parameter with description := text },
  flagField source "required" fun flag parameter => { parameter with required := flag },
  ⟨"schema", fun node parameter => do
    return { parameter with schema := ← readOptional source (readSchema source depth) node }⟩,
  textField source "type" fun text parameter => { parameter with type := text }]

/-- Reads a parameter. -/
def readParameter (depth : Nat) (node : Node) : Decoder Parameter :=
  readRecord source "Parameter" {} (parameterFields source) depth node

/-- The fields of a response. -/
def responseFields (depth : Nat) : List (Field Response) := [
  textField source "$ref" fun text response => { response with reference := text },
  ⟨"description", fun node response => do
    return { response with description := ← readText source node }⟩,
  ⟨"schema", fun node response => do
    return { response with schema := ← readOptional source (readSchema source depth) node }⟩]

/-- Reads a response. -/
def readResponse (depth : Nat) (node : Node) : Decoder Response :=
  readRecord source "Response" {} (responseFields source) depth node

/-- The fields of an operation. -/
def operationFields (depth : Nat) : List (Field Operation) := [
  textField source "operationId" fun text operation => { operation with operationId := text },
  textField source "summary" fun text operation => { operation with summary := text },
  textField source "description" fun text operation => { operation with description := text },
  ⟨"tags", fun node operation => do
    return { operation with tags := ← readList source depth (fun _ => readText source) node }⟩,
  ⟨"parameters", fun node operation => do
    return { operation with parameters := ← readList source depth (readParameter source) node }⟩,
  ⟨"responses", fun node operation => do
    return { operation with responses := ← readTable source depth (readResponse source) node }⟩,
  flagField source "deprecated" fun flag operation => { operation with deprecated := flag }]

/-- Reads an operation. -/
def readOperation (depth : Nat) (node : Node) : Decoder Operation :=
  readRecord source "Operation" {} (operationFields source) depth node

/-- A field that holds the operation of a method. -/
def operationField (depth : Nat) (name : String)
    (store : Option Operation → PathItem → PathItem) : Field PathItem :=
  ⟨name, fun node item => do
    return store (← readOptional source (readOperation source depth) node) item⟩

/-- The fields of the operations behind a path. -/
def pathItemFields (depth : Nat) : List (Field PathItem) := [
  operationField source depth "get" fun operation item => { item with get := operation },
  operationField source depth "put" fun operation item => { item with put := operation },
  operationField source depth "post" fun operation item => { item with post := operation },
  operationField source depth "delete" fun operation item => { item with delete := operation },
  operationField source depth "options" fun operation item => { item with options := operation },
  operationField source depth "head" fun operation item => { item with head := operation },
  operationField source depth "patch" fun operation item => { item with patch := operation },
  ⟨"parameters", fun node item => do
    return { item with parameters := ← readList source depth (readParameter source) node }⟩]

/-- Reads the operations behind a path. -/
def readPathItem (depth : Nat) (node : Node) : Decoder PathItem :=
  readRecord source "PathItem" {} (pathItemFields source) depth node

/-- The fields of an API description. -/
def documentFields (depth : Nat) : List (Field Document) := [
  ⟨"swagger", fun node document => do
    return { document with swagger := ← readText source node }⟩,
  ⟨"info", fun node document => do
    return { document with info := ← readInfo source depth node }⟩,
  textField source "basePath" fun text document => { document with basePath := text },
  ⟨"paths", fun node document => do
    return { document with paths := ← readTable source depth (readPathItem source) node }⟩,
  ⟨"definitions", fun node document => do
    return { document with definitions := ← readTable source depth (readSchema source) node }⟩,
  ⟨"parameters", fun node document => do
    return { document with parameters := ← readTable source depth (readParameter source) node }⟩,
  ⟨"responses", fun node document => do
    return { document with responses := ← readTable source depth (readResponse source) node }⟩]

/-- Reads an API description that is nested at most `depth` levels deep. -/
def readDocument (depth : Nat) (node : Node) : Decoder Document :=
  readRecord source "SwaggerDocument" {} (documentFields source) depth node

end Readers

end ApiCatalog
