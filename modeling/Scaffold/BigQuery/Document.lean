import Scaffold.Discovery.Document

/-!
# The document of the BigQuery API

The discovery document that a run without a document of its own works on, reduced to what
`Discovery.Document` keeps. A path is given by its segments; a placeholder either stands within
one segment or may span several, and the mark of the latter is a plus sign.
-/

namespace Scaffold.BigQuery

open Discovery (Document Method NameMap Parameter Resource)

/-- A placeholder for text within one segment. -/
def within (name : String) : String :=
  "\x7b" ++ name ++ "\x7d"

/-- A placeholder for text that may span several segments. -/
def spanning (name : String) : String :=
  "\x7b+" ++ name ++ "\x7d"

/-- Segments joined by slashes. -/
def joined (segments : List String) : String :=
  String.intercalate "/" segments

/-- To view and manage data. -/
def dataScope : String := "https://www.googleapis.com/auth/bigquery"

/-- To manage data across the platform. -/
def cloudScope : String := "https://www.googleapis.com/auth/cloud-platform"

/-- To manage data in the object store. -/
def storageScope : String := "https://www.googleapis.com/auth/devstorage.full_control"

/-- To insert data. -/
def insertScope : String := "https://www.googleapis.com/auth/bigquery.insertdata"

/-- To view data across the platform. -/
def cloudReadScope : String := "https://www.googleapis.com/auth/cloud-platform.read-only"

/-- The scopes of methods that run jobs. -/
def jobScopes : List String := [dataScope, cloudScope, storageScope]

/-- The scopes of methods that change data. -/
def writeScopes : List String := [dataScope, cloudScope]

/-- The scopes of methods that insert data. -/
def insertScopes : List String := [dataScope, insertScope, cloudScope]

/-- The scopes of methods that read data. -/
def readScopes : List String := [dataScope, cloudScope, cloudReadScope]

/-- A parameter that is part of the path, and therefore required. -/
def inPath (name : String) : String × Parameter :=
  (name, ⟨"string", "path", true⟩)

/-- A parameter in the query. -/
def inQuery (name type : String) : String × Parameter :=
  (name, ⟨type, "query", false⟩)

/-- A method with its name. -/
def method (name httpMethod : String) (scopes path : List String)
    (flatPath : Option (List String)) (parameters : List (String × Parameter)) :
    String × Method :=
  (name, ⟨httpMethod, .ofList parameters, joined path, flatPath.map joined, scopes⟩)

namespace Methods

/-- The methods of `datasets`. -/
def datasets : Resource := ⟨.ofList [
    method "delete" "DELETE" writeScopes
      ["projects", spanning "projectId", "datasets", spanning "datasetId"]
      (some ["projects", within "projectsId", "datasets", within "datasetsId"])
      [inPath "projectId", inPath "datasetId", inQuery "deleteContents" "boolean"],
    method "get" "GET" readScopes
      ["projects", spanning "projectId", "datasets", spanning "datasetId"]
      (some ["projects", within "projectsId", "datasets", within "datasetsId"])
      [inPath "projectId", inPath "datasetId"],
    method "insert" "POST" writeScopes
      ["projects", spanning "projectId", "datasets"]
      (some ["projects", within "projectsId", "datasets"])
      [inPath "projectId"],
    method "list" "GET" readScopes
      ["projects", spanning "projectId", "datasets"]
      (some ["projects", within "projectsId", "datasets"])
      [inPath "projectId", inQuery "all" "boolean", inQuery "filter" "string",
       inQuery "maxResults" "integer", inQuery "pageToken" "string"],
    method "patch" "PATCH" writeScopes
      ["projects", spanning "projectId", "datasets", spanning "datasetId"]
      (some ["projects", within "projectsId", "datasets", within "datasetsId"])
      [inPath "projectId", inPath "datasetId"],
    method "undelete" "POST" writeScopes
      ["projects", spanning "projectId", "datasets", spanning "datasetId" ++ ":undelete"]
      (some ["projects", within "projectsId", "datasets", within "datasetsId" ++ ":undelete"])
      [inPath "projectId", inPath "datasetId"],
    method "update" "PUT" writeScopes
      ["projects", spanning "projectId", "datasets", spanning "datasetId"]
      (some ["projects", within "projectsId", "datasets", within "datasetsId"])
      [inPath "projectId", inPath "datasetId"]]⟩

/-- The methods of `jobs`. -/
def jobs : Resource := ⟨.ofList [
    method "cancel" "POST" writeScopes
      ["projects", spanning "projectId", "jobs", spanning "jobId", "cancel"]
      (some ["projects", within "projectsId", "jobs", within "jobsId", "cancel"])
      [inPath "projectId", inPath "jobId", inQuery "location" "string"],
    method "delete" "DELETE" writeScopes
      ["projects", spanning "projectId", "jobs", spanning "jobId", "delete"]
      (some ["projects", within "projectsId", "jobs", within "jobsId", "delete"])
      [inPath "projectId", inPath "jobId", inQuery "location" "string"],
    method "get" "GET" readScopes
      ["projects", spanning "projectId", "jobs", spanning "jobId"]
      (some ["projects", within "projectsId", "jobs", within "jobsId"])
      [inPath "projectId", inPath "jobId", inQuery "location" "string"],
    method "getQueryResults" "GET" readScopes
      ["projects", spanning "projectId", "queries", spanning "jobId"]
      (some ["projects", within "projectsId", "queries", within "queriesId"])
      [inPath "projectId", inPath "jobId", inQuery "location" "string",
       inQuery "startIndex" "string", inQuery "timeoutMs" "integer",
       inQuery "maxResults" "integer", inQuery "pageToken" "string"],
    method "insert" "POST" jobScopes
      ["projects", spanning "projectId", "jobs"]
      (some ["projects", within "projectsId", "jobs"])
      [inPath "projectId"],
    method "list" "GET" readScopes
      ["projects", spanning "projectId", "jobs"]
      (some ["projects", within "projectsId", "jobs"])
      [inPath "projectId", inQuery "allUsers" "boolean", inQuery "projection" "string",
       inQuery "stateFilter" "string", inQuery "maxResults" "integer",
       inQuery "pageToken" "string"],
    method "query" "POST" readScopes
      ["projects", spanning "projectId", "queries"]
      (some ["projects", within "projectsId", "queries"])
      [inPath "projectId"]]⟩

/-- The methods of `models`. -/
def models : Resource := ⟨.ofList [
    method "delete" "DELETE" writeScopes
      ["projects", spanning "projectId", "datasets", spanning "datasetId", "models",
       spanning "modelId"]
      (some ["projects", within "projectsId", "datasets", within "datasetsId", "models",
        within "modelsId"])
      [inPath "projectId", inPath "datasetId", inPath "modelId"],
    method "get" "GET" readScopes
      ["projects", spanning "projectId", "datasets", spanning "datasetId", "models",
       spanning "modelId"]
      (some ["projects", within "projectsId", "datasets", within "datasetsId", "models",
        within "modelsId"])
      [inPath "projectId", inPath "datasetId", inPath "modelId"],
    method "list" "GET" readScopes
      ["projects", spanning "projectId", "datasets", spanning "datasetId", "models"]
      (some ["projects", within "projectsId", "datasets", within "datasetsId", "models"])
      [inPath "projectId", inPath "datasetId", inQuery "maxResults" "integer",
       inQuery "pageToken" "string"],
    method "patch" "PATCH" writeScopes
      ["projects", spanning "projectId", "datasets", spanning "datasetId", "models",
       spanning "modelId"]
      (some ["projects", within "projectsId", "datasets", within "datasetsId", "models",
        within "modelsId"])
      [inPath "projectId", inPath "datasetId", inPath "modelId"]]⟩

/-- The methods of `projects`. -/
def projects : Resource := ⟨.ofList [
    method "getServiceAccount" "GET" readScopes
      ["projects", spanning "projectId", "serviceAccount"]
      (some ["projects", within "projectsId", "serviceAccount"])
      [inPath "projectId"],
    method "list" "GET" readScopes
      ["projects"]
      none
      [inQuery "maxResults" "integer", inQuery "pageToken" "string"]]⟩

/-- The methods of `routines`. -/
def routines : Resource := ⟨.ofList [
    method "delete" "DELETE" writeScopes
      ["projects", spanning "projectId", "datasets", spanning "datasetId", "routines",
       spanning "routineId"]
      (some ["projects", within "projectsId", "datasets", within "datasetsId", "routines",
        within "routinesId"])
      [inPath "projectId", inPath "datasetId", inPath "routineId"],
    method "get" "GET" readScopes
      ["projects", spanning "projectId", "datasets", spanning "datasetId", "routines",
       spanning "routineId"]
      (some ["projects", within "projectsId", "datasets", within "datasetsId", "routines",
        within "routinesId"])
      [inPath "projectId", inPath "datasetId", inPath "routineId"],
    method "insert" "POST" writeScopes
      ["projects", spanning "projectId", "datasets", spanning "datasetId", "routines"]
      (some ["projects", within "projectsId", "datasets", within "datasetsId", "routines"])
      [inPath "projectId", inPath "datasetId"],
    method "list" "GET" readScopes
      ["projects", spanning "projectId", "datasets", spanning "datasetId", "routines"]
      (some ["projects", within "projectsId", "datasets", within "datasetsId", "routines"])
      [inPath "projectId", inPath "datasetId", inQuery "filter" "string",
       inQuery "maxResults" "integer", inQuery "pageToken" "string"],
    method "update" "PUT" writeScopes
      ["projects", spanning "projectId", "datasets", spanning "datasetId", "routines",
       spanning "routineId"]
      (some ["projects", within "projectsId", "datasets", within "datasetsId", "routines",
        within "routinesId"])
      [inPath "projectId", inPath "datasetId", inPath "routineId"]]⟩

/-- The methods of `rowAccessPolicies`. -/
def rowAccessPolicies : Resource := ⟨.ofList [
    method "getIamPolicy" "POST" readScopes
      [spanning "resource" ++ ":getIamPolicy"]
      (some ["projects", within "projectsId", "datasets", within "datasetsId", "tables",
        within "tablesId", "rowAccessPolicies", within "rowAccessPoliciesId" ++ ":getIamPolicy"])
      [inPath "resource"],
    method "list" "GET" readScopes
      ["projects", spanning "projectId", "datasets", spanning "datasetId", "tables",
       spanning "tableId", "rowAccessPolicies"]
      (some ["projects", within "projectsId", "datasets", within "datasetsId", "tables",
        within "tablesId", "rowAccessPolicies"])
      [inPath "projectId", inPath "datasetId", inPath "tableId", inQuery "maxResults" "integer",
       inQuery "pageToken" "string"],
    method "testIamPermissions" "POST" readScopes
      [spanning "resource" ++ ":testIamPermissions"]
      (some ["projects", within "projectsId", "datasets", within "datasetsId", "tables",
        within "tablesId", "rowAccessPolicies",
        within "rowAccessPoliciesId" ++ ":testIamPermissions"])
      [inPath "resource"]]⟩

/-- The methods of `tabledata`. -/
def tabledata : Resource := ⟨.ofList [
    method "insertAll" "POST" insertScopes
      ["projects", spanning "projectId", "datasets", spanning "datasetId", "tables",
       spanning "tableId", "insertAll"]
      (some ["projects", within "projectsId", "datasets", within "datasetsId", "tables",
        within "tablesId", "insertAll"])
      [inPath "projectId", inPath "datasetId", inPath "tableId"],
    method "list" "GET" readScopes
      ["projects", spanning "projectId", "datasets", spanning "datasetId", "tables",
       spanning "tableId", "data"]
      (some ["projects", within "projectsId", "datasets", within "datasetsId", "tables",
        within "tablesId", "data"])
      [inPath "projectId", inPath "datasetId", inPath "tableId",
       inQuery "selectedFields" "string", inQuery "startIndex" "string",
       inQuery "maxResults" "integer", inQuery "pageToken" "string"]]⟩

/-- The methods of `tables`. -/
def tables : Resource := ⟨.ofList [
    method "delete" "DELETE" writeScopes
      ["projects", spanning "projectId", "datasets", spanning "datasetId", "tables",
       spanning "tableId"]
      (some ["projects", within "projectsId", "datasets", within "datasetsId", "tables",
        within "tablesId"])
      [inPath "projectId", inPath "datasetId", inPath "tableId"],
    method "get" "GET" readScopes
      ["projects", spanning "projectId", "datasets", spanning "datasetId", "tables",
       spanning "tableId"]
      (some ["projects", within "projectsId", "datasets", within "datasetsId", "tables",
        within "tablesId"])
      [inPath "projectId", inPath "datasetId", inPath "tableId",
       inQuery "selectedFields" "string", inQuery "view" "string"],
    method "getIamPolicy" "POST" readScopes
      [spanning "resource" ++ ":getIamPolicy"]
      (some ["projects", within "projectsId", "datasets", within "datasetsId", "tables",
        within "tablesId" ++ ":getIamPolicy"])
      [inPath "resource"],
    method "insert" "POST" writeScopes
      ["projects", spanning "projectId", "datasets", spanning "datasetId", "tables"]
      (some ["projects", within "projectsId", "datasets", within "datasetsId", "tables"])
      [inPath "projectId", inPath "datasetId"],
    method "list" "GET" readScopes
      ["projects", spanning "projectId", "datasets", spanning "datasetId", "tables"]
      (some ["projects", within "projectsId", "datasets", within "datasetsId", "tables"])
      [inPath "projectId", inPath "datasetId", inQuery "maxResults" "integer",
       inQuery "pageToken" "string"],
    method "patch" "PATCH" writeScopes
      ["projects", spanning "projectId", "datasets", spanning "datasetId", "tables",
       spanning "tableId"]
      (some ["projects", within "projectsId", "datasets", within "datasetsId", "tables",
        within "tablesId"])
      [inPath "projectId", inPath "datasetId", inPath "tableId",
       inQuery "autodetect_schema" "boolean"],
    method "setIamPolicy" "POST" writeScopes
      [spanning "resource" ++ ":setIamPolicy"]
      (some ["projects", within "projectsId", "datasets", within "datasetsId", "tables",
        within "tablesId" ++ ":setIamPolicy"])
      [inPath "resource"],
    method "testIamPermissions" "POST" readScopes
      [spanning "resource" ++ ":testIamPermissions"]
      (some ["projects", within "projectsId", "datasets", within "datasetsId", "tables",
        within "tablesId" ++ ":testIamPermissions"])
      [inPath "resource"],
    method "update" "PUT" writeScopes
      ["projects", spanning "projectId", "datasets", spanning "datasetId", "tables",
       spanning "tableId"]
      (some ["projects", within "projectsId", "datasets", within "datasetsId", "tables",
        within "tablesId"])
      [inPath "projectId", inPath "datasetId", inPath "tableId",
       inQuery "autodetect_schema" "boolean"]]⟩

end Methods

open Methods in
/-- The **bundled document**. -/
def document : Document where
  name := "bigquery"
  version := "v2"
  title := "BigQuery API"
  resources := .ofList [
    ("datasets", datasets), ("jobs", jobs), ("models", models),
    ("projects", projects), ("routines", routines), ("rowAccessPolicies", rowAccessPolicies),
    ("tabledata", tabledata), ("tables", tables)]

end Scaffold.BigQuery
