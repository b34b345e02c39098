import DocumentAnalyser.Value

/-!
# The requirement catalog

`RequirementPrompt` is the frozen dataclass of `requirements.py`, and `REQUIREMENTS` its static
table, kept in the order of the source since `list_requirements` returns the values in that
order.
-/

namespace DocumentAnalyser

set_option autoImplicit false

/-- `Literal["genericDocument", "data"]`, the resource kind a requirement's evidence targets. -/
inductive ResourceType where
  | genericDocument
  | data
  deriving DecidableEq, Repr

/-- The string the dataclass field holds. -/
def ResourceType.tag : ResourceType → String
  | genericDocument => "genericDocument"
  | data => "data"

/-- One requirement: what to ask the model and under which field name to read its verdict. -/
structure RequirementPrompt where
  id : String
  name : String
  /-- What the model should look for in the document. -/
  prompt : String
  resourceType : ResourceType := .genericDocument
  responseFieldName : Option String := none
  deriving DecidableEq, Repr

/-- The mapping table of requirement IDs to prompts. -/
def REQUIREMENTS : List (String × RequirementPrompt) := [
  ("X.1.1.9.1", {
    id := "E83"
    name := "Products with digital elements shall protect the availability of essential and basic functions, also after an incident, including through resilience and mitigation measures against denial-of-service attacks"
    prompt := "Business continuity policy created: describing strategies and procedures to maintain essential functions during cyberattacks and recover quickly, ensuring resilience, protecting assets."
    responseFieldName := some "businessContinuityPolicy" }),
  ("X.1.1.9.2", {
    id := "E81"
    name := "Products with digital elements shall protect the availability of essential and basic functions, also after an incident, including through resilience and mitigation measures against denial-of-service attacks"
    prompt := "Describes strategies or procedures to protect the availability of essential and basic functions of the product. And also highlights mitigation measures against denial-of-service attacks."
    responseFieldName := some "availabilityProtection" }),
  ("X.1.1.8", {
    id := "E79"
    name := "Products with digital elements shall process only data, personal or other, that are adequate, relevant and limited to what is necessary in relation to the intended purpose of the product with digital elements (data minimisation)"
    prompt := "Data minimization policy created: outlining principles and practices to ensure only necessary data is collected, processed, and retained, minimizing privacy risks."
    responseFieldName := some "dataMinimizationPolicy" }),
  ("X.1.1.7", {
    id := "E63"
    name := "Products with digital elements shall protect the integrity of stored, transmitted or otherwise processed data, personal or other, commands, programs and configuration against any manipulation or modification not authorised by the user, and report on corruptions"
    prompt := "Integrity protection mechanisms described: technical measure to ensure stored, transmitted and processed data are not altered or tampered with. A secure default configuration is described."
    responseFieldName := some "integrityProtection" }),
  ("X.1.1.6", {
    id := "E63"
    name := "Products with digital elements shall protect the confidentiality of stored, transmitted or otherwise processed data, personal or other, such as by encrypting relevant data at rest or in transit by state of the art mechanisms, and by using other technical means;"
    prompt := "Confidentiality protection mechanisms described: technical measures such as encryption to safeguard stored, transmitted, and processed data from unauthorized access."
    responseFieldName := some "confidentialityProtection" }),
  ("X.1.1.5", {
    id := "E67"
    name := "Products with digital elements shall implement mechanisms to ensure that only authorised users have access to the product with digital elements and to data, personal or other, processed by the product with digital elements, including by providing means for user authentication and for managing user identities and access rights;"
    prompt := "Access control mechanisms described: technical and organizational measures to ensure only authorized users can access the product and its data, including user authentication and identity management. (e.g. Unauthorised access detection and reporting mechanisms)"
    responseFieldName := some "accessControlMechanisms" }),
  ("X.1.1.4", {
    id := "E61"
    name := "Products with digital elements shall ensure that vulnerabilities can be addressed through security updates, including, where applicable, through automatic security updates that are installed within an appropriate timeframe enabled as a default setting, with a clear and easy-to-use opt-out mechanism, through the notification of available updates to users, and the option to temporarily postpone them;"
    prompt := "Security update mechanisms described: Enabled by default and description of opt-out mechanism with instructions to temporarily postpone updates. Processes to notify users of available updates."
    responseFieldName := some "securityUpdateMechanisms" }),
  ("X.1.1.3", {
    id := "E55"
    name := "Products with digital elements shall be made available on the market with a secure by default configuration, unless otherwise agreed between manufacturer and business user in relation to a tailor-made product with digital elements, including the possibility to reset the product to its original state;"
    prompt := "Secure by default configuration described, including the possibility to reset the product to its original state."
    responseFieldName := some "secureByDefaultConfiguration" }),
  ("X.1.1.2.1", {
    id := "E51"
    name := "Products with digital elements shall be made available on the market without known exploitable vulnerabilities;"
    prompt := "Security testing policies described: outlining processes for identifying and addressing vulnerabilities before market release, including penetration testing, code reviews, and vulnerability assessments."
    responseFieldName := some "securityTestingPolicies" }),
  ("X.1.1.2.2", {
    id := "E52"
    name := "Products with digital elements shall be made available on the market without known exploitable vulnerabilities;"
    prompt := "Documented penetration testing results: showing that the product has been tested for vulnerabilities and none were found."
    responseFieldName := some "penetrationTestingResults" }),
  ("X.1.1.1", {
    id := "E45"
    name := "Products with digital elements shall be designed, developed and produced in such a way that they ensure an appropriate level of cybersecurity based on the risks"
    prompt := ""
    responseFieldName := some "cybersecurityRiskManagement" }),
  ("X.1.1.10", {
    id := "E87"
    name := "Products with digital elements shall minimise the negative impact by the products themselves or connected devices on the availability of services provided by other devices or networks;"
    prompt := "Impact minimization measures described: technical and organizational strategies to reduce the negative impact of the product or connected devices on the availability of services provided by other devices or networks."
    responseFieldName := some "impactMinimizationMeasures" }),
  ("X.1.1.11", {
    id := "E3"
    name := "Products with digital elements shall be designed, developed and produced to limit attack surfaces, including external interfaces;"
    prompt := "Security baseline established: defining minimum security requirements and configurations to limit attack surfaces, including external interfaces."
    responseFieldName := some "securityBaseline" }),
  ("X.1.1.12.1", {
    id := "E93"
    name := "Products with digital elements shall be designed, developed and produced to reduce the impact of an incident using appropriate exploitation mitigation mechanisms and techniques;"
    prompt := "Regular data backups performed: ensuring that data can be restored in the event of a security incident, minimizing impact and downtime."
    responseFieldName := some "dataBackups" }),
  ("X.1.1.12.2", {
    id := "E91"
    name := "Products with digital elements shall be designed, developed and produced to reduce the impact of an incident using appropriate exploitation mitigation mechanisms and techniques;"
    prompt := "Data Leakage Prevention (DLP) mechanisms described: technical controls implemented to prevent unauthorized data exfiltration and minimize the impact of security incidents."
    responseFieldName := some "dataLeakagePrevention" }),
  ("X.1.1.12.3", {
    id := "E92"
    name := "Products with digital elements shall be designed, developed and produced to reduce the impact of an incident using appropriate exploitation mitigation mechanisms and techniques;"
    prompt := "Segregation of duties implemented: organizational measures to separate critical functions and responsibilities, reducing the risk and impact of security incidents."
    responseFieldName := some "segregationOfDuties" }),
  ("X.1.1.13", {
    id := "E99"
    name := "Products with digital elements shall provide security related information by recording and monitoring relevant internal activity, including the access to or modification of data, services or functions, with an opt-out mechanism for the user;"
    prompt := "Contains log data and monitoring information: showing that the product records and monitors relevant internal activity, including access to or modification of data, services, or functions."
    resourceType := .data
    responseFieldName := some "securityLoggingAndMonitoring" }),
  ("X.1.1.14", {
    id := "E101"
    name := "Products with digital elements shall provide the possibility for users to securely and easily remove on a permanent basis all data and settings and, where such data can be transferred to other products or systems, ensure that this is done in a secure manner."
    prompt := "Secure data removal mechanisms described: providing users with the ability to permanently delete all data and settings from the product."
    responseFieldName := some "secureDataRemoval" }),
  ("X.1.1.14.2", {
    id := "E102"
    name := "Products with digital elements shall provide the possibility for users to securely and easily remove on a permanent basis all data and settings and, where such data can be transferred to other products or systems, ensure that this is done in a secure manner."
    prompt := "Secure data transfer mechanisms described: ensuring that data is transferred to other products or systems in a secure manner."
    responseFieldName := some "secureDataTransfer" })
]

/-- Return a requirement prompt by ID. -/
def getRequirement (requirementId : String) : Option RequirementPrompt :=
  REQUIREMENTS.lookup requirementId

/-- Return all requirement prompts. -/
def listRequirements : List RequirementPrompt := REQUIREMENTS.map Prod.snd

/-- `getattr(requirement, "response_field_name", None) or "requirementMet"`: the name of the
verdict field, computed the same way by the prompt builder and by the analyser. -/
def RequirementPrompt.fieldName (r : RequirementPrompt) : String :=
  match r.responseFieldName with
  | some name => if name = "" then "requirementMet" else name
  | none => "requirementMet"

theorem RequirementPrompt.fieldName_ne_empty (r : RequirementPrompt) : r.fieldName ≠ "" := by
  unfold RequirementPrompt.fieldName
  split
  · split <;> simp_all
  · decide

end DocumentAnalyser
