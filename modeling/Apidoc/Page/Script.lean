/-!
# The script of the pages

Text that the browser runs: search over the index of a site, and the check boxes of editable pages.
-/

namespace Apidoc

def searchScript : String :=
  "// DocuAgent Search and Edit Functionality
document.addEventListener('DOMContentLoaded', function() \x7b
    const searchInput = document.getElementById('search-input');
    const searchResults = document.getElementById('search-results');
    const resultsList = document.getElementById('results-list');
    const mainContent = document.querySelector('.content > *:not(#search-results)');

    let searchData = [];

    // Load search index
    fetch(window.location.pathname.includes('/modules/') ? '../search.json' : 'search.json')
        .then(response => response.json())
        .then(data => \x7b
            searchData = data;
        \x7d)
        .catch(err => console.log('Search index not available'));

    if (searchInput) \x7b
        searchInput.addEventListener('input', function() \x7b
            const query = this.value.toLowerCase().trim();

            if (query.length < 2) \x7b
                searchResults.style.display = 'none';
                return;
            \x7d

            const results = searchData.filter(item => \x7b
                return item.name.toLowerCase().includes(query) ||
                       item.description.toLowerCase().includes(query) ||
                       item.path.toLowerCase().includes(query);
            \x7d).slice(0, 20);

            if (results.length > 0) \x7b
                resultsList.innerHTML = results.map(item => \x7b
                    const basePath = window.location.pathname.includes('/modules/') ? '../' : '';
                    return `
                        <li>
                            <a href=\"$\x7bbasePath\x7d$\x7bitem.url\x7d\">$\x7bitem.name\x7d</a>
                            <span class=\"result-type\">$\x7bitem.type\x7d</span>
                            <div class=\"result-desc\">$\x7bitem.description.substring(0, 100)\x7d...</div>
                        </li>
                    `;
                \x7d).join('');
                searchResults.style.display = 'block';
            \x7d else \x7b
                resultsList.innerHTML = '<li>No results found</li>';
                searchResults.style.display = 'block';
            \x7d
        \x7d);
    \x7d

"

def selectionScript : String :=
  "    // ==================== EDITABLE MODE FUNCTIONALITY ====================

    // Check if we're in editable mode
    const isEditableMode = document.body.classList.contains('editable-mode');

    if (isEditableMode) \x7b
        // Storage key for selections (use localStorage to persist across pages)
        const STORAGE_KEY = 'docuagent_selections';

        // Load existing selections from localStorage
        function loadSelections() \x7b
            try \x7b
                const stored = localStorage.getItem(STORAGE_KEY);
                return stored ? JSON.parse(stored) : \x7b\x7d;
            \x7d catch (e) \x7b
                console.error('Error loading selections:', e);
                return \x7b\x7d;
            \x7d
        \x7d

        // Save selections to localStorage
        function saveSelections(selections) \x7b
            try \x7b
                localStorage.setItem(STORAGE_KEY, JSON.stringify(selections));
            \x7d catch (e) \x7b
                console.error('Error saving selections:', e);
            \x7d
        \x7d

        // Get all selections from the current page
        function getSelectionsFromPage() \x7b
            const selections = loadSelections();
            document.querySelectorAll('.component-checkbox').forEach(checkbox => \x7b
                const id = checkbox.dataset.id;
                if (id) \x7b
                    selections[id] = \x7b
                        included: checkbox.checked,
                        type: checkbox.dataset.type,
                        title: checkbox.dataset.title
                    \x7d;
                \x7d
            \x7d);
            return selections;
        \x7d

        // Sync checkboxes with stored selections
        function syncCheckboxesWithStorage() \x7b
            const selections = loadSelections();
            document.querySelectorAll('.component-checkbox').forEach(checkbox => \x7b
                const id = checkbox.dataset.id;
                if (id && selections[id] !== undefined) \x7b
                    checkbox.checked = selections[id].included;
                    updateVisualState(checkbox);
                \x7d
            \x7d);
        \x7d

        // Update visual state of component based on checkbox
        function updateVisualState(checkbox) \x7b
            const parent = checkbox.closest('.toc-item, .method, .function, .class-section');
            if (parent) \x7b
                if (checkbox.checked) \x7b
                    parent.classList.remove('excluded');
                \x7d else \x7b
                    parent.classList.add('excluded');
                \x7d
            \x7d
        \x7d

        // Handle checkbox changes
        document.querySelectorAll('.component-checkbox').forEach(checkbox => \x7b
            checkbox.addEventListener('change', function() \x7b
                const selections = getSelectionsFromPage();
                saveSelections(selections);
                updateVisualState(this);

                // Sync same component across sidebar and content
                const id = this.dataset.id;
                document.querySelectorAll(`.component-checkbox[data-id=\"$\x7bid\x7d\"]`).forEach(cb => \x7b
                    if (cb !== this) \x7b
                        cb.checked = this.checked;
                        updateVisualState(cb);
                    \x7d
                \x7d);
            \x7d);
        \x7d);

        // Sync on page load
        syncCheckboxesWithStorage();

"

def buttonScript : String :=
  "        // Select All button
        const selectAllBtn = document.getElementById('select-all-btn');
        if (selectAllBtn) \x7b
            selectAllBtn.addEventListener('click', function() \x7b
                document.querySelectorAll('.component-checkbox').forEach(checkbox => \x7b
                    checkbox.checked = true;
                    updateVisualState(checkbox);
                \x7d);
                const selections = getSelectionsFromPage();
                saveSelections(selections);
            \x7d);
        \x7d

        // Deselect All button
        const deselectAllBtn = document.getElementById('deselect-all-btn');
        if (deselectAllBtn) \x7b
            deselectAllBtn.addEventListener('click', function() \x7b
                document.querySelectorAll('.component-checkbox').forEach(checkbox => \x7b
                    checkbox.checked = false;
                    updateVisualState(checkbox);
                \x7d);
                const selections = getSelectionsFromPage();
                saveSelections(selections);
            \x7d);
        \x7d

"

/-! ## exported selections -/

def titleTemplate : String := "# DocuAgent Selections\\n"

def openingTemplates : List String :=
  ["# Generated from editable documentation mode\\n",
   "# To use: place in .docuagent/selections.yaml and run: docuagent generate --use-selections\\n\\n",
   "version: \"1.0\"\\n",
   "updated_at: \"$\x7bnow\x7d\"\\n",
   "metadata: \x7b\x7d\\n",
   "selections:\\n"]

def entryTemplates : List String :=
  ["  $\x7bid\x7d:\\n",
   "    included: $\x7bdata.included\x7d\\n",
   "    custom_title: null\\n",
   "    custom_description: null\\n"]

def templateLine (start template : String) : String := start ++ "`" ++ template ++ "`;\n"

def exportScript : String :=
  "        // Export Selections button
        const exportBtn = document.getElementById('export-selections-btn');
        if (exportBtn) \x7b
            exportBtn.addEventListener('click', function() \x7b
                const selections = loadSelections();

                // Convert to YAML format compatible with DocuAgent
                const yamlContent = generateYAML(selections);

                // Create and download file
                const blob = new Blob([yamlContent], \x7b type: 'text/yaml' \x7d);
                const url = URL.createObjectURL(blob);
                const a = document.createElement('a');
                a.href = url;
                a.download = 'selections.yaml';
                document.body.appendChild(a);
                a.click();
                document.body.removeChild(a);
                URL.revokeObjectURL(url);

                // Show confirmation
                alert('Selections exported!\\n\\nTo use these selections:\\n1. Move selections.yaml to your project\\'s .docuagent/ folder\\n2. Run: docuagent generate --use-selections');
            \x7d);
        \x7d

        // Generate YAML content from selections
        function generateYAML(selections) \x7b
            const now = new Date().toISOString();
" ++
  templateLine "            let yaml = " titleTemplate ++
  String.join (openingTemplates.map (templateLine "            yaml += ")) ++
  "
            for (const [id, data] of Object.entries(selections)) \x7b
" ++
  String.join (entryTemplates.map (templateLine "                yaml += ")) ++
  "            \x7d

            return yaml;
        \x7d
    \x7d
\x7d);
"

def pageScript : String := searchScript ++ selectionScript ++ buttonScript ++ exportScript

end Apidoc
