import Scaffold.BigQuery.Document

/-!
# The routes of the BigQuery API

The table by which requests are routed: one entry for each method of the bundled document, in
ascending order of handler name. Templates are built from those of the resources that enclose
them.
-/

namespace Scaffold.BigQuery

/-- An entry of the table. -/
structure Route where
  /-- Path template. -/
  template : String
  /-- HTTP verb. -/
  httpMethod : String
  /-- Name of the handler type. -/
  handler : String
  deriving Repr, DecidableEq

namespace Template

/-- All projects. -/
def projects : String := "/projects"

/-- A project. -/
def project : String := projects ++ "/" ++ within "projectsId"

/-- The datasets of a project. -/
def datasets : String := project ++ "/datasets"

/-- A dataset. -/
def dataset : String := datasets ++ "/" ++ within "datasetsId"

/-- The jobs of a project. -/
def jobs : String := project ++ "/jobs"

/-- A job. -/
def job : String := jobs ++ "/" ++ within "jobsId"

/-- The queries of a project. -/
def queries : String := project ++ "/queries"

/-- A query. -/
def query : String := queries ++ "/" ++ within "queriesId"

/-- The models of a dataset. -/
def models : String := dataset ++ "/models"

/-- A model. -/
def model : String := models ++ "/" ++ within "modelsId"

/-- The routines of a dataset. -/
def routines : String := dataset ++ "/routines"

/-- A routine. -/
def routine : String := routines ++ "/" ++ within "routinesId"

/-- The tables of a dataset. -/
def tables : String := dataset ++ "/tables"

/-- A table. -/
def table : String := tables ++ "/" ++ within "tablesId"

/-- The access policies on the rows of a table. -/
def policies : String := table ++ "/rowAccessPolicies"

/-- An access policy. -/
def policy : String := policies ++ "/" ++ within "rowAccessPoliciesId"

end Template

open Template in
/-- The **table of routes**. -/
def routes : List Route := [
  ⟨dataset, "DELETE", "datasetsDeleteHandler"⟩,
  ⟨dataset, "GET", "datasetsGetHandler"⟩,
  ⟨datasets, "POST", "datasetsInsertHandler"⟩,
  ⟨datasets, "GET", "datasetsListHandler"⟩,
  ⟨dataset, "PATCH", "datasetsPatchHandler"⟩,
  ⟨dataset ++ ":undelete", "POST", "datasetsUndeleteHandler"⟩,
  ⟨dataset, "PUT", "datasetsUpdateHandler"⟩,
  ⟨job ++ "/cancel", "POST", "jobsCancelHandler"⟩,
  ⟨job ++ "/delete", "DELETE", "jobsDeleteHandler"⟩,
  ⟨job, "GET", "jobsGetHandler"⟩,
  ⟨query, "GET", "jobsGetQueryResultsHandler"⟩,
  ⟨jobs, "POST", "jobsInsertHandler"⟩,
  ⟨jobs, "GET", "jobsListHandler"⟩,
  ⟨queries, "POST", "jobsQueryHandler"⟩,
  ⟨model, "DELETE", "modelsDeleteHandler"⟩,
  ⟨model, "GET", "modelsGetHandler"⟩,
  ⟨models, "GET", "modelsListHandler"⟩,
  ⟨model, "PATCH", "modelsPatchHandler"⟩,
  ⟨project ++ "/serviceAccount", "GET", "projectsGetServiceAccountHandler"⟩,
  ⟨projects, "GET", "projectsListHandler"⟩,
  ⟨routine, "DELETE", "routinesDeleteHandler"⟩,
  ⟨routine, "GET", "routinesGetHandler"⟩,
  ⟨routines, "POST", "routinesInsertHandler"⟩,
  ⟨routines, "GET", "routinesListHandler"⟩,
  ⟨routine, "PUT", "routinesUpdateHandler"⟩,
  ⟨policy ++ ":getIamPolicy", "POST", "rowAccessPoliciesGetIamPolicyHandler"⟩,
  ⟨policies, "GET", "rowAccessPoliciesListHandler"⟩,
  ⟨policy ++ ":testIamPermissions", "POST", "rowAccessPoliciesTestIamPermissionsHandler"⟩,
  ⟨table ++ "/insertAll", "POST", "tabledataInsertAllHandler"⟩,
  ⟨table ++ "/data", "GET", "tabledataListHandler"⟩,
  ⟨table, "DELETE", "tablesDeleteHandler"⟩,
  ⟨table, "GET", "tablesGetHandler"⟩,
  ⟨table ++ ":getIamPolicy", "POST", "tablesGetIamPolicyHandler"⟩,
  ⟨tables, "POST", "tablesInsertHandler"⟩,
  ⟨tables, "GET", "tablesListHandler"⟩,
  ⟨table, "PATCH", "tablesPatchHandler"⟩,
  ⟨table ++ ":setIamPolicy", "POST", "tablesSetIamPolicyHandler"⟩,
  ⟨table ++ ":testIamPermissions", "POST", "tablesTestIamPermissionsHandler"⟩,
  ⟨table, "PUT", "tablesUpdateHandler"⟩]

end Scaffold.BigQuery
